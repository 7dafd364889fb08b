import RobotCell.Data.Toml.Document
import RobotCell.Exchange.Settings
import RobotCell.Files
import RobotCell.Settings.Environment

/-!
# RobotCell.Settings.Load

Settings from a file and the environment.

A relative path is looked up from the working directory upwards.  A file that is not there leaves
everything to the defaults; variables are laid over what the file says.
-/

namespace RobotCell.Settings

/-- Where the settings are kept. -/
def defaultPath : String := "config/toro.toml"

/-- What a settings file says; one that is not there says nothing. -/
def fileFields? : Option FileNode → Option Fields
  | some (.text content) => Toml.parse? content
  | some _ => none
  | none => some []

/-- The settings of a file and of variables over them, which must be without fault. -/
def ofSources (file : Option FileNode) (environment : List (String × String)) :
    Except Failure Settings :=
  let fields := (fileFields? file).map (·.over (Environment.fields environment))
  match fields.bind fun fields => Settings.ofDatum? .ignored (.table fields) with
  | none => .error (.settings .unreadable)
  | some s =>
    match s.validate with
    | .error e => .error e
    | .ok () => .ok s

/-- The settings of the file at a path, if there is one there or above it, and of variables over
them. -/
def load (files : Files) (environment : List (String × String)) (path : String) :
    Except Failure Settings :=
  ofSources (files.fileAbove? path) environment

end RobotCell.Settings
