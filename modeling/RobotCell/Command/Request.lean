import RobotCell.Settings.Load

/-!
# RobotCell.Command.Request

What a command line asks for.
-/

namespace RobotCell.Command

/-- A job to compile, and the files to write. -/
structure Compilation where
  job : String
  output : String
  descriptor : Option String := none
  manifest : Option String := none
  deriving DecidableEq

/-- What to do. -/
inductive Task where
  | compile (files : Compilation)
  | showSettings
  deriving DecidableEq

/-- What to do with which settings, and how much more to log than they say. -/
structure Request where
  settingsPath : String := Settings.defaultPath
  verbosity : Nat := 0
  task : Task
  deriving DecidableEq

end RobotCell.Command
