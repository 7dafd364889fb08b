import RobotCell.Motion.Pose

/-!
# RobotCell.Program.Statement

The lines of a program: data declarations and routine statements.

A `Binding` is a declared item, a `Statement` an instruction with its operands; their texts start
with a line feed and tabs, so that they follow one another in a module as they are.  A `Declaration`
and an `Instruction` are lines of a compiled set, with what a reader of the set wants to know of
them beside their texts.
-/

namespace RobotCell

/-! ## Declarations -/

/-- Where a declared item lives. -/
inductive Storage where
  | const
  | variable
  | persistent
  | taskPersistent
  deriving DecidableEq

/-- The keywords of a storage class. -/
def Storage.keyword : Storage → String
  | .const => "CONST"
  | .variable => "VAR"
  | .persistent => "PERS"
  | .taskPersistent => "TASK PERS"

/-- A declared item; the value is a literal. -/
structure Binding where
  storage : Storage
  type : String
  name : String
  value : Option String
  deriving DecidableEq

/-- The declaration line of an item. -/
def Binding.text (b : Binding) : String :=
  let head := "\n\t" ++ b.storage.keyword ++ " " ++ b.type ++ " " ++ b.name
  match b.value with
  | some value => head ++ ":=" ++ value ++ ";"
  | none => head ++ ";"

/-- The data that goes with one instruction of a compiled set. -/
structure Declaration where
  /-- The place in the set, which the instruction shares. -/
  index : Nat
  /-- The names that the text declares, in order. -/
  names : List String
  text : String
  deriving DecidableEq

/-! ## Statements -/

/-- The active tool and work object of a move. -/
structure Frames where
  tool : String := "tool0"
  wobj : String := "wobj0"
  deriving DecidableEq

def Frames.text (f : Frames) : String := f.tool ++ "\\WObj:=" ++ f.wobj

/-- The moves to one named target. -/
inductive MoveKind where
  | moveL
  | moveJ
  | moveAbsJ
  deriving DecidableEq

/-- An instruction with its operands; data is referred to by name. -/
inductive Statement where
  | move (kind : MoveKind) (target speed zone : String) (frames : Frames)
  | moveC (via target speed zone : String) (frames : Frames)
  | indAMove (unit : String) (axis : UInt8) (position speed : String)
  | indReset (unit : String) (axis : UInt8) (reference : Binary64)
  | custom (body : String)
  deriving DecidableEq

/-- A raw body as a line of a routine. -/
def routineLine (body : String) : String := "\n\t\t" ++ body ++ ";"

def MoveKind.opcode : MoveKind → String
  | .moveL => "MoveL"
  | .moveJ => "MoveJ"
  | .moveAbsJ => "MoveAbsJ"

namespace Statement

/-- The name of the instruction. -/
def opcode : Statement → String
  | .move kind .. => kind.opcode
  | .moveC .. => "MoveC"
  | .indAMove .. => "IndAMove"
  | .indReset .. => "IndReset"
  | .custom _ => "Custom"

/-- The text of the instruction without line start and semicolon. -/
def body : Statement → String
  | .move kind target speed zone frames =>
    kind.opcode ++ " " ++ target ++ "," ++ speed ++ "," ++ zone ++ "," ++ frames.text
  | .moveC via target speed zone frames =>
    "MoveC " ++ via ++ "," ++ target ++ "," ++ speed ++ "," ++ zone ++ "," ++ frames.text
  | .indAMove unit axis position speed =>
    "IndAMove " ++ unit ++ "," ++ toString axis ++ "\\ToAbsNum:=" ++ position ++ "," ++ speed
  | .indReset unit axis reference =>
    "IndReset " ++ unit ++ "," ++ toString axis ++ "\\RefNum:=" ++ numberText reference ++ "\\Old"
  | .custom body => body

def text (s : Statement) : String := routineLine s.body

end Statement

/-- An instruction of a compiled set. -/
structure Instruction where
  /-- The place in the set. -/
  index : Nat
  opcode : String
  /-- The symbol of the speed, where the instruction takes one. -/
  speed : Option String
  /-- The symbol of the zone, where the instruction takes one. -/
  zone : Option String
  text : String
  deriving DecidableEq

end RobotCell
