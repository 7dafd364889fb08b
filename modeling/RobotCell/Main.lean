import RobotCell.Command.Help
import RobotCell.Command.Run

/-!
# RobotCell.Main

The command line program: its arguments, its environment and its files.
-/

namespace RobotCell.Main

/-! ## Files -/

/-- The file at a path; what cannot be read is none. -/
def fileAt? (path : String) : IO (Option FileNode) := do
  try
    let bytes ← IO.FS.readBinFile path
    match String.fromUTF8? bytes with
    | some text => return some (.text text)
    | none => return some .binary
  catch _ => return none

/-- The file at a path from the working directory or from a directory above it. -/
def findAbove? (path : String) : IO (Option FileNode) := do
  if path.startsWith "/" then return ← fileAt? path
  let mut candidate := path
  for _ in (← IO.currentDir).components do
    if let some node ← fileAt? candidate then return some node
    candidate := "../" ++ candidate
  return none

instance : FileSystem IO where
  file? := fileAt?
  fileAbove? := findAbove?
  write path text := do
    try
      IO.FS.writeFile path text
      return .ok ()
    catch _ => return .error .io

/-! ## Environment -/

/-- A variable from its name and value with an equals sign between them. -/
def ofEntry? (entry : String) : Option (String × String) :=
  match entry.splitOn "=" with
  | name :: value => some (name, "=".intercalate value)
  | [] => none

/-- The environment variables of this process. -/
def environment : IO (List (String × String)) := do
  match ← fileAt? "/proc/self/environ" with
  | some (.text entries) => return (entries.splitOn "\x00").filterMap ofEntry?
  | _ => return []

/-! ## Runs -/

/-- Carries out a request and reports on it. -/
def carryOut (r : Command.Request) : IO Nat := do
  let outcome ← (Command.run (← environment) r : Command.RunM IO Command.Report).run
  match outcome with
  | .ok report =>
    IO.print report.output
    if report.level.shows .debug then IO.eprintln "done"
    return 0
  | .error fault =>
    IO.eprint fault.report
    return fault.exitCode

end RobotCell.Main

def main (args : List String) : IO UInt32 := do
  match RobotCell.Command.Request.ofArguments args with
  | .ok r => return (← RobotCell.Main.carryOut r).toUInt32
  | .error stop =>
    IO.print stop.output
    if stop = .misuse then IO.eprint RobotCell.Command.misuseText
    return stop.exitCode.toUInt32
