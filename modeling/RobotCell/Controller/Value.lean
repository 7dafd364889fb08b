import RobotCell.Program.Records

/-!
# RobotCell.Controller.Value

Values of named data items on the controller.

A value is inferred from the shape of its literal: four groups are a `robtarget`, two a
`jointtarget`, three after a truth value a `tooldata`, five after two truth values and a string a
`wobjdata`.  A value fits an item that is declared with its own type, and a number fits a `dnum`
as well.
-/

namespace RobotCell

/-! ## Records -/

/-- A tool: whether the robot holds it, its centre point and its load. -/
structure ToolData where
  robhold : Bool
  tframe : Pose
  load : LoadData
  deriving DecidableEq

/-- A work object: how it is held and moved, its user frame and, relative to that, its object
frame. -/
structure WobjData where
  robhold : Bool
  ufprog : Bool
  ufmec : String
  uframe : Pose
  oframe : Pose
  deriving DecidableEq

/-- A frame alone, with default arm configuration and no external axes. -/
def Pose.ofFrameLiteral? (t : Literal) : Option Pose :=
  match t.items? with
  | some [p, o] =>
    match p.numbers? 3, o.numbers? 4 with
    | some position, some orientation => some { position, orientation }
    | _, _ => none
  | _ => none

def LoadData.ofLiteral? (t : Literal) : Option LoadData :=
  match t.items? with
  | some [m, c, a, x, y, z] =>
    match m.num?, c.numbers? 3, a.numbers? 4, x.num?, y.num?, z.num? with
    | some mass, some cog, some aom, some x, some y, some z => some ⟨mass, cog, aom, #v[x, y, z]⟩
    | _, _, _, _, _, _ => none
  | _ => none

def ToolData.literal (t : ToolData) : String :=
  bracketed [flagText t.robhold, t.tframe.frameLiteral, t.load.literal]

/-- A text in quotes, as it stands. -/
def quotedText (s : String) : String := "\"" ++ s ++ "\""

def WobjData.literal (w : WobjData) : String :=
  bracketed [flagText w.robhold, flagText w.ufprog, quotedText w.ufmec, w.uframe.frameLiteral,
    w.oframe.frameLiteral]

/-! ## Values -/

/-- A value of one of the supported data types. -/
inductive DataValue where
  | robtarget (pose : Pose)
  | jointtarget (pose : JointPose)
  | tooldata (tool : ToolData)
  | wobjdata (wobj : WobjData)
  | num (value : Binary64)
  | bool (value : Bool)
  | string (text : String)
  deriving DecidableEq

namespace DataValue

/-- The data type of a value. -/
def dataType : DataValue → String
  | .robtarget _ => "robtarget"
  | .jointtarget _ => "jointtarget"
  | .tooldata _ => "tooldata"
  | .wobjdata _ => "wobjdata"
  | .num _ => "num"
  | .bool _ => "bool"
  | .string _ => "string"

/-- Whether the value can stand in an item declared with a type. -/
def fits (v : DataValue) (declared : String) : Bool :=
  declared == v.dataType ||
    match v with
    | .num _ => declared == "dnum"
    | _ => false

def literal : DataValue → String
  | .robtarget p => p.literal
  | .jointtarget p => p.literal
  | .tooldata t => t.literal
  | .wobjdata w => w.literal
  | .num x => numberText x
  | .bool b => flagText b
  | .string s => quotedText s

/-! ## Reading -/

/-- The tool of a list of three, the work object of a list of five. -/
def ofRecord? : List Literal → Option DataValue
  | [.bool robhold, frame, load] =>
    match Pose.ofFrameLiteral? frame, LoadData.ofLiteral? load with
    | some tframe, some load => some (.tooldata { robhold, tframe, load })
    | _, _ => none
  | [.bool robhold, .bool ufprog, .str ufmec, user, object] =>
    match Pose.ofFrameLiteral? user, Pose.ofFrameLiteral? object with
    | some uframe, some oframe => some (.wobjdata { robhold, ufprog, ufmec, uframe, oframe })
    | _, _ => none
  | _ => none

/-- The value of a tree by its shape; `text` is what a failure quotes. -/
def ofLiteral (text : String) (t : Literal) : Except Failure DataValue :=
  match t with
  | .num x => .ok (.num x)
  | .bool b => .ok (.bool b)
  | .str s => .ok (.string s)
  | .list [.list _, _, _, _] => (Pose.ofLiteral text t).map .robtarget
  | .list [.list _, _] => (JointPose.ofLiteral text t).map .jointtarget
  | .list items =>
    match ofRecord? items with
    | some v => .ok v
    | none => .error (.invalidLiteral text .unknownShape)

/-- Reads a text as a value of the kind that its shape shows. -/
def parse (text : String) : Except Failure DataValue :=
  match Literal.parse text with
  | .error e => .error e
  | .ok t => ofLiteral text t

/-- The types that are inferred from the shape and then compared with the declared one. -/
def inferredTypes : List String := ["tooldata", "wobjdata", "num", "dnum", "bool", "string"]

/-- Reads a text as a value of a declared type. -/
def parseAs (declared text : String) : Except Failure DataValue :=
  if declared = "robtarget" then (Pose.parse text).map .robtarget
  else if declared = "jointtarget" then (JointPose.parse text).map .jointtarget
  else if declared ∈ inferredTypes then
    match parse text with
    | .error e => .error e
    | .ok v =>
      if v.fits declared then .ok v else .error (.invalidLiteral text (.notOfType declared))
  else .error (.refused (.unsupportedType declared))

end DataValue

end RobotCell
