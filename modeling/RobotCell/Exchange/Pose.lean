import RobotCell.Data.Record
import RobotCell.Motion.Catalog
import RobotCell.Motion.Pose

/-!
# RobotCell.Exchange.Pose

Targets and motion parameters as structured data.

A pose is a record of its groups; arm configuration and external axes may be left out, and an
external axis that is not in use is null.  A target of either kind has the field `kind` beside
those of its pose.
-/

namespace RobotCell

/-- The data of a list of numbers. -/
def numberList (values : List Binary64) : Datum := .list (values.map .float)

/-! ## Groups -/

namespace ArmConfiguration

def ofDatum? (s : Surplus) : Datum → Option ArmConfiguration :=
  RecordM.run s do
    let cf1 ← RecordM.required "cf1" Datum.int32?
    let cf4 ← RecordM.required "cf4" Datum.int32?
    let cf6 ← RecordM.required "cf6" Datum.int32?
    let cfx ← RecordM.required "cfx" Datum.int32?
    return { cf1, cf4, cf6, cfx }

def toDatum (c : ArmConfiguration) : Datum :=
  .table [("cf1", .integer c.cf1.toInt), ("cf4", .integer c.cf4.toInt),
    ("cf6", .integer c.cf6.toInt), ("cfx", .integer c.cfx.toInt)]

end ArmConfiguration

namespace ExternalAxes

def ofDatum? (s : Surplus) (d : Datum) : Option ExternalAxes :=
  d.vectorOf? s 6 (Datum.orNull? Datum.float?)

/-- The data of one axis. -/
def axisDatum : Option Binary64 → Datum
  | some x => .float x
  | none => .null

def toDatum (axes : ExternalAxes) : Datum := .list (axes.toList.map axisDatum)

end ExternalAxes

/-! ## Poses -/

namespace Pose

def ofDatum? (s : Surplus) : Datum → Option Pose :=
  RecordM.run s do
    let position ← RecordM.required "position" (Datum.vectorOf? s 3 Datum.float?)
    let orientation ← RecordM.required "orientation" (Datum.vectorOf? s 4 Datum.float?)
    let config ← RecordM.optional "config" {} (ArmConfiguration.ofDatum? s)
    let external ← RecordM.optional "external" ExternalAxes.unused (ExternalAxes.ofDatum? s)
    return { position, orientation, config, external }

/-- The fields of a pose. -/
def toFields (p : Pose) : Fields :=
  [("position", numberList p.position.toList), ("orientation", numberList p.orientation.toList),
    ("config", p.config.toDatum), ("external", ExternalAxes.toDatum p.external)]

def toDatum (p : Pose) : Datum := .table p.toFields

end Pose

namespace JointPose

def ofDatum? (s : Surplus) : Datum → Option JointPose :=
  RecordM.run s do
    let joints ← RecordM.required "joints" (Datum.vectorOf? s 6 Datum.float?)
    let external ← RecordM.optional "external" ExternalAxes.unused (ExternalAxes.ofDatum? s)
    return { joints, external }

/-- The fields of a joint pose. -/
def toFields (p : JointPose) : Fields :=
  [("joints", numberList p.joints.toList), ("external", ExternalAxes.toDatum p.external)]

def toDatum (p : JointPose) : Datum := .table p.toFields

end JointPose

/-! ## Targets of either kind -/

namespace Target

/-- Reads a target by its kind. -/
def ofDatum? (d : Datum) : Option Target := do
  let (kind, rest) ← d.tagged? "kind"
  if kind = "cartesian" then (Pose.ofDatum? .refused rest).map .cartesian
  else if kind = "joint" then (JointPose.ofDatum? .refused rest).map .joint
  else none

def toDatum : Target → Datum
  | .cartesian p => .table (("kind", .string "cartesian") :: p.toFields)
  | .joint p => .table (("kind", .string "joint") :: p.toFields)

end Target

/-! ## Parameters -/

namespace MotionParameter

/-- A number is a level and a string a symbol. -/
def ofDatum? : Datum → Option MotionParameter
  | .string name => some (.symbol name)
  | d => d.float?.map .level

def toDatum : MotionParameter → Datum
  | .level value => .float value
  | .symbol name => .string name

end MotionParameter

end RobotCell
