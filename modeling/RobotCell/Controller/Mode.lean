/-!
# RobotCell.Controller.Mode

The operating modes of a robot controller and the ways of loading a module.
-/

namespace RobotCell

/-- The position of the controller's key switch. -/
inductive OperatingMode where
  | init
  | auto
  | manual
  | manualFullSpeed
  | autoChange
  | undefined
  deriving DecidableEq

/-- The name of a mode. -/
def OperatingMode.name : OperatingMode → String
  | .init => "Init"
  | .auto => "Auto"
  | .manual => "Manual"
  | .manualFullSpeed => "ManualFullSpeed"
  | .autoChange => "AutoChange"
  | .undefined => "Undefined"

/-- Every mode, in the order of their declaration. -/
def OperatingMode.all : List OperatingMode :=
  [.init, .auto, .manual, .manualFullSpeed, .autoChange, .undefined]

/-- The mode with a name. -/
def OperatingMode.ofName? (s : String) : Option OperatingMode := all.find? (·.name == s)

theorem OperatingMode.ofName?_name (m : OperatingMode) : ofName? m.name = some m := by
  cases m <;> decide

/-- How a loaded module relates to what the task already holds. -/
inductive LoadMode where
  /-- Beside the existing modules; a name clash is rejected. -/
  | add
  /-- In place of existing content. -/
  | replace
  deriving DecidableEq

end RobotCell
