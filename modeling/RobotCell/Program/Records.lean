import RobotCell.Program.Statement

/-!
# RobotCell.Program.Records

Data records of a program: speeds, zones, loads, tools, work objects, motion settings, stop points
and the shapes of work zones.

Every builder gives the declared item with its literal, each literal a bracketed list of the
fields in the order of the record.
-/

namespace RobotCell

/-! ## Scalar records -/

/-- The speeds of the tool centre point, of reorientation, and of linear and rotating external
axes. -/
def speedData (name : String) (vTcp vOri vLeax vReax : Binary64) : Binding :=
  ⟨.variable, "speeddata", name, some (numbersText [vTcp, vOri, vLeax, vReax])⟩

/-- The fields of a zone record. -/
structure ZoneData where
  /-- A fine point: the robot stops at the target. -/
  finep : Bool
  pzoneTcp : Binary64
  pzoneOri : Binary64
  pzoneEax : Binary64
  zoneOri : Binary64
  zoneLeax : Binary64
  zoneReax : Binary64
  deriving DecidableEq

def ZoneData.literal (z : ZoneData) : String :=
  bracketed [flagText z.finep, numberText z.pzoneTcp, numberText z.pzoneOri,
    numberText z.pzoneEax, numberText z.zoneOri, numberText z.zoneLeax, numberText z.zoneReax]

def zoneData (name : String) (z : ZoneData) : Binding :=
  ⟨.variable, "zonedata", name, some z.literal⟩

/-- A payload: mass in kg, centre of gravity, axes of moment and moments of inertia. -/
structure LoadData where
  mass : Binary64
  cog : Vector Binary64 3
  aom : Vector Binary64 4
  inertia : Vector Binary64 3
  deriving DecidableEq

def LoadData.literal (l : LoadData) : String :=
  bracketed ([numberText l.mass, numbersText l.cog.toList, numbersText l.aom.toList] ++
    l.inertia.toList.map numberText)

def loadData (name : String) (l : LoadData) : Binding :=
  ⟨.persistent, "loaddata", name, some l.literal⟩

def confData (name : String) (c : ArmConfiguration) : Binding :=
  ⟨.persistent, "confdata", name, some c.literal⟩

/-! ## Tools and work objects -/

/-- The load of a tool of a given mass: its centre of gravity lies just off the flange. -/
def toolLoad (mass : Binary64) : LoadData := ⟨mass, #v[0, 0, 0.001], #v[1, 0, 0, 0], #v[0, 0, 0]⟩

/-- The frame of an object that is not moved. -/
def originFrame : Pose := { position := #v[0, 0, 0], orientation := #v[1, 0, 0, 0] }

/-- A tool held by the robot, with its centre point at a frame. -/
def toolData (name : String) (frame : Pose) (mass : Binary64) : Binding :=
  ⟨.persistent, "tooldata", name,
    some (bracketed [flagText true, frame.frameLiteral, (toolLoad mass).literal])⟩

/-- A fixed work object with its user frame at a frame. -/
def wobjData (name : String) (frame : Pose) : Binding :=
  ⟨.taskPersistent, "wobjdata", name,
    some (bracketed [flagText false, flagText true, "\"\"", frame.frameLiteral,
      originFrame.frameLiteral])⟩

/-! ## Motion settings -/

/-- The fields of a motion settings record, by default as the controller has them after power-on.
A limit of `none` is disabled. -/
structure MotionSettings where
  velOride : Binary64 := 100
  velMax : Binary64 := 5000
  accAcc : Binary64 := 100
  accRamp : Binary64 := 100
  singWrist : Bool := false
  singArm : Bool := false
  singBase : Bool := false
  confJsup : Bool := true
  confLsup : Bool := true
  confAx1 : Binary64 := 30
  confAx4 : Binary64 := 45
  confAx6 : Binary64 := 90
  pathresol : Binary64 := 100
  motionsup : Bool := true
  tunevalue : Binary64 := 100
  accmax : Option Binary64 := none
  decelmax : Option Binary64 := none
  cirpathreori : UInt8 := 0
  worldaccmax : Option Binary64 := none
  evtbufferact : Bool := true
  deriving DecidableEq

/-- The two fields of a limit; a disabled one has the value -1. -/
def limitFields : Option Binary64 → List String
  | some x => [flagText true, numberText x]
  | none => [flagText false, "-1"]

def MotionSettings.literal (m : MotionSettings) : String :=
  bracketed ([numbersText [m.velOride, m.velMax], numbersText [m.accAcc, m.accRamp],
    bracketed [flagText m.singWrist, flagText m.singArm, flagText m.singBase],
    bracketed [flagText m.confJsup, flagText m.confLsup, numberText m.confAx1,
      numberText m.confAx4, numberText m.confAx6],
    numberText m.pathresol, flagText m.motionsup, numberText m.tunevalue] ++
    limitFields m.accmax ++ limitFields m.decelmax ++ [toString m.cirpathreori] ++
    limitFields m.worldaccmax ++ [flagText m.evtbufferact])

def motsetData (name : String) (m : MotionSettings) : Binding :=
  ⟨.variable, "motsetdata", name, some m.literal⟩

/-! ## Stop points -/

/-- How a stop point ends. -/
inductive StopPointKind where
  | inPosition
  | stopTime
  | followTime
  deriving DecidableEq

namespace StopPointKind

/-- The name of a kind in data files. -/
def name : StopPointKind → String
  | .inPosition => "InPosition"
  | .stopTime => "StopTime"
  | .followTime => "FollowTime"

/-- The constant of a kind in programs. -/
def keyword : StopPointKind → String
  | .inPosition => "inpos"
  | .stopTime => "stoptime"
  | .followTime => "fllwtime"

def ofName? (s : String) : Option StopPointKind :=
  [StopPointKind.inPosition, .stopTime, .followTime].find? (·.name == s)

end StopPointKind

/-- The fields of a stop point record. -/
structure StopPoint where
  kind : StopPointKind
  progsynch : Bool
  inposPosition : Binary64
  inposSpeed : Binary64
  inposMintime : Binary64
  inposMaxtime : Binary64
  stoptime : Binary64
  followtime : Binary64
  deriving DecidableEq

def StopPoint.literal (s : StopPoint) : String :=
  bracketed [s.kind.keyword, flagText s.progsynch,
    numbersText [s.inposPosition, s.inposSpeed, s.inposMintime, s.inposMaxtime],
    numberText s.stoptime, numberText s.followtime, "\"\"", "0", "0"]

def stopPointData (name : String) (s : StopPoint) : Binding :=
  ⟨.variable, "stoppointdata", name, some s.literal⟩

/-! ## Work zones -/

/-- Which side of a shape is supervised. -/
inductive ZoneSide where
  | inside
  | outside
  deriving DecidableEq

def ZoneSide.switch : ZoneSide → String
  | .inside => "\\Inside"
  | .outside => "\\Outside"

/-- The declarations and the routine lines that define one work zone. -/
structure WorkZone where
  declarations : List Binding
  instructions : List String

def WorkZone.declarationText (z : WorkZone) : String := String.join (z.declarations.map (·.text))

def WorkZone.instructionText (z : WorkZone) : String :=
  String.join (z.instructions.map routineLine)

/-- The variable that holds a shape. -/
def shapeBinding (name : String) : Binding := ⟨.variable, "shapedata", name, none⟩

def positionBinding (name : String) (p : Vector Binary64 3) : Binding :=
  ⟨.const, "pos", name, some (numbersText p.toList)⟩

def numberBinding (name : String) (x : Binary64) : Binding :=
  ⟨.const, "num", name, some (numberText x)⟩

def jointBinding (name : String) (p : JointPose) : Binding :=
  ⟨.const, "jointtarget", name, some p.literal⟩

/-- A box between two corners. -/
def boxZone (name : String) (side : ZoneSide) (low high : Vector Binary64 3) : WorkZone :=
  ⟨[shapeBinding name, positionBinding ("lo" ++ name) low, positionBinding ("hi" ++ name) high],
    ["WZBoxDef " ++ side.switch ++ "," ++ name ++ ",lo" ++ name ++ ",hi" ++ name]⟩

/-- A vertical cylinder on the centre of its base. -/
def cylinderZone (name : String) (side : ZoneSide) (center : Vector Binary64 3)
    (radius height : Binary64) : WorkZone :=
  ⟨[shapeBinding name, positionBinding ("c" ++ name) center, numberBinding ("r" ++ name) radius,
      numberBinding ("h" ++ name) height],
    ["WZCylDef " ++ side.switch ++ "," ++ name ++ ",c" ++ name ++ ",r" ++ name ++ ",h" ++ name]⟩

/-- A sphere around a centre. -/
def sphereZone (name : String) (side : ZoneSide) (center : Vector Binary64 3)
    (radius : Binary64) : WorkZone :=
  ⟨[shapeBinding name, positionBinding ("c" ++ name) center, numberBinding ("r" ++ name) radius],
    ["WZSphDef " ++ side.switch ++ "," ++ name ++ ",c" ++ name ++ ",r" ++ name]⟩

/-- Limits of the joints, supervised at standstill as well. -/
def jointLimitZone (name : String) (side : ZoneSide) (low high : JointPose) : WorkZone :=
  ⟨[⟨.variable, "wzstationary", "wl" ++ name, none⟩, shapeBinding ("js" ++ name),
      jointBinding ("lo" ++ name) low, jointBinding ("hi" ++ name) high],
    ["WZLimJointDef " ++ side.switch ++ ",js" ++ name ++ ",lo" ++ name ++ ",hi" ++ name,
      "WZLimSup \\Stat,wl" ++ name ++ ",js" ++ name]⟩

/-! ## Padding -/

/-- Zeros before the text of a number, up to a width in characters. -/
def padLeft (x : Binary64) (width : Nat) : String :=
  let text := numberText x
  String.ofList (List.replicate (width - text.length) '0') ++ text

/-- Zeros after the text of a number, up to a width in characters. -/
def padRight (x : Binary64) (width : Nat) : String :=
  let text := numberText x
  text ++ String.ofList (List.replicate (width - text.length) '0')

end RobotCell
