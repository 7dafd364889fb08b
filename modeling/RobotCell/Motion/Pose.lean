import RobotCell.Motion.Literal

/-!
# RobotCell.Motion.Pose

Motion targets: Cartesian poses, joint poses, and their literals.

```
robtarget   = [[x,y,z],[q1,q2,q3,q4],[cf1,cf4,cf6,cfx],[e1,e2,e3,e4,e5,e6]]
jointtarget = [[j1,j2,j3,j4,j5,j6],[e1,e2,e3,e4,e5,e6]]
```

An external axis that is not in use is written `9E+09`, and every value at or above that mark is
read as not in use.  Reading checks the shape only; `Pose.validate` and `JointPose.validate` check
that the numbers are fit for a robot.
-/

namespace RobotCell

/-! ## Arm configuration -/

/-- The quadrants of axes 1, 4 and 6, and the configuration bit. -/
structure ArmConfiguration where
  cf1 : Int32 := 0
  cf4 : Int32 := 0
  cf6 : Int32 := 0
  cfx : Int32 := 0
  deriving DecidableEq

/-- A number read as a quadrant: whole and in the range of 32-bit integers. -/
def quadrant? (x : Binary64) : Option Int32 :=
  match x.toInt? with
  | none => none
  | some i => if -2147483648 ≤ i ∧ i ≤ 2147483647 then some (Int32.ofInt i) else none

/-- The text of a 32-bit integer. -/
def quadrantText (q : Int32) : String := toString q.toInt

namespace ArmConfiguration

def ofLiteral? (t : Literal) : Option ArmConfiguration :=
  match t.numbers? 4 with
  | none => none
  | some v =>
    match quadrant? v[0], quadrant? v[1], quadrant? v[2], quadrant? v[3] with
    | some cf1, some cf4, some cf6, some cfx => some { cf1, cf4, cf6, cfx }
    | _, _, _, _ => none

def literal (c : ArmConfiguration) : String :=
  bracketed [quadrantText c.cf1, quadrantText c.cf4, quadrantText c.cf6, quadrantText c.cfx]

end ArmConfiguration

/-! ## External axes -/

/-- The positions of six external axes; `none` for an axis that is not in use. -/
abbrev ExternalAxes := Vector (Option Binary64) 6

/-- The mark of an external axis that is not in use. -/
def unusedAxis : Binary64 := 9e9

namespace ExternalAxes

/-- No axis in use. -/
def unused : ExternalAxes := Vector.replicate 6 none

/-- The position that a number in a literal stands for. -/
def axis? (x : Binary64) : Option Binary64 := if unusedAxis ≤ x then none else some x

def ofLiteral? (t : Literal) : Option ExternalAxes := (t.numbers? 6).map fun v => v.map axis?

def axisText : Option Binary64 → String
  | some x => numberText x
  | none => "9E+09"

def literal (axes : ExternalAxes) : String := bracketed (axes.toList.map axisText)

/-- Every axis in use has a finite position. -/
def validate (axes : ExternalAxes) : Except Failure Unit :=
  match (axes.toList.filterMap id).find? (fun x => !x.isFinite) with
  | some x => .error (.invalidPose (.externalAxis x))
  | none => .ok ()

end ExternalAxes

/-! ## Cartesian poses -/

/-- The position and orientation of a tool centre point, with arm configuration and external
axes.  The orientation is a quaternion with its scalar part first. -/
structure Pose where
  position : Vector Binary64 3
  orientation : Vector Binary64 4
  config : ArmConfiguration := {}
  external : ExternalAxes := ExternalAxes.unused
  deriving DecidableEq

/-- The largest accepted deviation of an orientation's norm from one. -/
def normTolerance : Binary64 := 1e-6

namespace Pose

/-- The position and orientation groups alone, as tools and work objects have them. -/
def frameLiteral (p : Pose) : String :=
  bracketed [numbersText p.position.toList, numbersText p.orientation.toList]

def literal (p : Pose) : String :=
  bracketed [numbersText p.position.toList, numbersText p.orientation.toList, p.config.literal,
    ExternalAxes.literal p.external]

/-- The length of the orientation quaternion. -/
def orientationNorm (p : Pose) : Binary64 :=
  ((p.orientation.toList.map fun q => q * q).foldl (· + ·) (Binary64.zero false)).sqrt

/-- All numbers are finite and the orientation is a unit quaternion within `normTolerance`. -/
def validate (p : Pose) : Except Failure Unit :=
  match (p.position.toList ++ p.orientation.toList).find? (fun x => !x.isFinite) with
  | some x => .error (.invalidPose (.component x p.literal))
  | none =>
    let norm := p.orientationNorm
    if normTolerance < (norm - 1).abs then .error (.invalidPose (.orientationNorm norm p.literal))
    else p.external.validate

/-- The pose of a tree of four groups; `text` is what a failure quotes. -/
def ofLiteral (text : String) (t : Literal) : Except Failure Pose :=
  let wrong (g : TargetGroup) : Except Failure Pose := .error (.invalidLiteral text (.group g))
  match t.items? with
  | some [p, o, c, e] =>
    match p.numbers? 3 with
    | none => wrong .position
    | some position =>
      match o.numbers? 4 with
      | none => wrong .orientation
      | some orientation =>
        match ArmConfiguration.ofLiteral? c with
        | none => wrong .configuration
        | some config =>
          match ExternalAxes.ofLiteral? e with
          | none => wrong .externalAxes
          | some external => .ok { position, orientation, config, external }
  | _ => wrong .robtarget

/-- Reads a `robtarget` literal. -/
def parse (text : String) : Except Failure Pose :=
  match Literal.parse text with
  | .error e => .error e
  | .ok t => ofLiteral text t

/-- A pose with default arm configuration and no external axes that passes `validate`. -/
def ofFrame (position : Vector Binary64 3) (orientation : Vector Binary64 4) :
    Except Failure Pose :=
  let p : Pose := { position, orientation }
  match p.validate with
  | .error e => .error e
  | .ok () => .ok p

end Pose

/-! ## Joint poses -/

/-- Six axis angles in degrees, with external axes. -/
structure JointPose where
  joints : Vector Binary64 6
  external : ExternalAxes := ExternalAxes.unused
  deriving DecidableEq

namespace JointPose

def literal (p : JointPose) : String :=
  bracketed [numbersText p.joints.toList, ExternalAxes.literal p.external]

/-- All numbers are finite. -/
def validate (p : JointPose) : Except Failure Unit :=
  match p.joints.toList.find? (fun x => !x.isFinite) with
  | some x => .error (.invalidPose (.joint x p.literal))
  | none => p.external.validate

/-- The joint pose of a tree of two groups; `text` is what a failure quotes. -/
def ofLiteral (text : String) (t : Literal) : Except Failure JointPose :=
  let wrong (g : TargetGroup) : Except Failure JointPose :=
    .error (.invalidLiteral text (.group g))
  match t.items? with
  | some [j, e] =>
    match j.numbers? 6 with
    | none => wrong .joints
    | some joints =>
      match ExternalAxes.ofLiteral? e with
      | none => wrong .externalAxes
      | some external => .ok { joints, external }
  | _ => wrong .jointtarget

/-- Reads a `jointtarget` literal. -/
def parse (text : String) : Except Failure JointPose :=
  match Literal.parse text with
  | .error e => .error e
  | .ok t => ofLiteral text t

end JointPose

/-! ## Either kind of target -/

/-- A Cartesian or a joint target. -/
inductive Target where
  | cartesian (pose : Pose)
  | joint (pose : JointPose)
  deriving DecidableEq

namespace Target

/-- The data type that a target is declared with. -/
def dataType : Target → String
  | .cartesian _ => "robtarget"
  | .joint _ => "jointtarget"

def literal : Target → String
  | .cartesian p => p.literal
  | .joint p => p.literal

def validate : Target → Except Failure Unit
  | .cartesian p => p.validate
  | .joint p => p.validate

end Target

end RobotCell
