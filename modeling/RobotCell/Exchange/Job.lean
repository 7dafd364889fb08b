import RobotCell.Exchange.Pose
import RobotCell.Job

/-!
# RobotCell.Exchange.Job

Jobs read from structured data, and compiled sets written as such.

A job is a table with the lists `tool`, `wobj`, `block` and `insert`, each of which may be left
out.  A block has the field `kind` beside its own fields.
-/

namespace RobotCell

/-! ## Jobs -/

namespace NamedFrame

def ofDatum? : Datum → Option NamedFrame :=
  RecordM.run .ignored do
    let name ← RecordM.required "name" Datum.string?
    let frame ← RecordM.required "frame" (Pose.ofDatum? .ignored)
    let mass ← RecordM.optional "mass" 1 Datum.float?
    return { name, frame, mass }

end NamedFrame

namespace MoveList

/-- The speeds, zones and frames of a block, each frame the default when it is left out. -/
def fields : RecordM MoveList := do
  let set ← RecordM.required "set_name" Datum.string?
  let speeds ← RecordM.required "speeds" (Datum.listOf? MotionParameter.ofDatum?)
  let zones ← RecordM.required "zones" (Datum.listOf? MotionParameter.ofDatum?)
  let tool ← RecordM.nullable "tool" Datum.string?
  let wobj ← RecordM.nullable "wobj" Datum.string?
  let base : Frames := {}
  return { set, speeds, zones, frames := ⟨tool.getD base.tool, wobj.getD base.wobj⟩ }

end MoveList

namespace Block

/-- A list of poses. -/
def poses? : Datum → Option (List Pose) := Datum.listOf? (Pose.ofDatum? .refused)

/-- The moves of a block, whose fields are given by name. -/
def ofMoves? (body : RecordM Block) (d : Datum) : Option Block :=
  match d with
  | .table _ => body.run .refused d
  | _ => none

/-- The block of a kind. -/
def ofKind? (kind : String) (d : Datum) : Option Block :=
  match kind with
  | "MoveL" => ofMoves? (do
      let targets ← RecordM.required "targets" poses?
      return .moveL targets (← MoveList.fields)) d
  | "MoveJ" => ofMoves? (do
      let targets ← RecordM.required "targets" poses?
      return .moveJ targets (← MoveList.fields)) d
  | "MoveAbsJ" => ofMoves? (do
      let targets ← RecordM.required "targets" (Datum.listOf? (JointPose.ofDatum? .refused))
      return .moveAbsJ targets (← MoveList.fields)) d
  | "MoveC" => ofMoves? (do
      let via ← RecordM.required "via" poses?
      let targets ← RecordM.required "targets" poses?
      return .moveC via targets (← MoveList.fields)) d
  | "Custom" => RecordM.run .refused (do
      let statements ← RecordM.required "statements" (Datum.listOf? Datum.string?)
      return .custom statements) d
  | _ => none

def ofDatum? (d : Datum) : Option Block := do
  let (kind, rest) ← d.tagged? "kind"
  ofKind? kind rest

end Block

namespace Insertion

def ofDatum? : Datum → Option Insertion :=
  RecordM.run .ignored do
    let positions ← RecordM.required "at" (Datum.listOf? Datum.word?)
    let statements ← RecordM.required "statements" (Datum.listOf? Datum.string?)
    return { positions, statements }

end Insertion

namespace Job

def ofDatum? : Datum → Option Job :=
  RecordM.run .ignored do
    let tools ← RecordM.optional "tool" [] (Datum.listOf? NamedFrame.ofDatum?)
    let wobjs ← RecordM.optional "wobj" [] (Datum.listOf? NamedFrame.ofDatum?)
    let blocks ← RecordM.optional "block" [] (Datum.listOf? Block.ofDatum?)
    let insertions ← RecordM.optional "insert" [] (Datum.listOf? Insertion.ofDatum?)
    return { tools, wobjs, blocks, insertions }

end Job

/-! ## Compiled sets -/

def Declaration.toDatum (d : Declaration) : Datum :=
  .table [("index", .integer d.index), ("names", .list (d.names.map .string)),
    ("text", .string d.text)]

/-- The data of an operand that an instruction may lack. -/
def operandDatum : Option String → Datum
  | some name => .string name
  | none => .null

def Instruction.toDatum (i : Instruction) : Datum :=
  .table [("index", .integer i.index), ("opcode", .string i.opcode),
    ("speed", operandDatum i.speed), ("zone", operandDatum i.zone), ("text", .string i.text)]

def CompiledSet.toDatum (s : CompiledSet) : Datum :=
  .table [("declarations", .list (s.declarations.map Declaration.toDatum)),
    ("instructions", .list (s.instructions.map Instruction.toDatum))]

end RobotCell
