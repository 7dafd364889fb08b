import RobotCell.Command.Arguments
import RobotCell.Data.Json
import RobotCell.Data.Toml.Layout
import RobotCell.Exchange.Job
import RobotCell.FileSystem

/-!
# RobotCell.Command.Run

Requests carried out on files.

A compilation loads the settings, reads the job and compiles it; nothing is written before all of
that has succeeded.  Then the module, its descriptor and the manifest are written in this order,
and what was written before a failure stays.
-/

namespace RobotCell.Command

/-! ## Faults -/

/-- Why a request is not carried out. -/
inductive Fault where
  | settings (path : String) (cause : Failure)
  | unreadableJob (path : String)
  | invalidJob (path : String)
  | catalogs (cause : Failure)
  | job (fault : JobFault)
  | output (cause : Failure)
  | unnamedOutput
  | manifest (path : String)
  /-- A count of the settings is too large to be written. -/
  | count
  deriving DecidableEq

namespace Fault

def message : Fault → String
  | .settings path _ => "failed to load " ++ path
  | .unreadableJob path => "cannot read job file " ++ path
  | .invalidJob path => "invalid job file " ++ path
  | .catalogs cause => cause.message
  | .job (.block index _) => "block " ++ toString index ++ " failed to compile"
  | .job (.insertion _) => "insert failed"
  | .job .overflow => "position overflow"
  | .output cause => cause.message
  | .unnamedOutput => "output path has no file name"
  | .manifest path => "cannot write manifest " ++ path
  | .count => "out-of-range value for u64 type"

/-- The failure behind a fault. -/
def cause? : Fault → Option Failure
  | .settings _ cause => some cause
  | .job (.block _ cause) => some cause
  | .job (.insertion cause) => some cause
  | .unreadableJob _ | .manifest _ => some .io
  | _ => none

/-- The text of the cause below its heading: every further line is set in like the first. -/
def causeText? (fault : Fault) : Option String :=
  fault.cause?.map fun cause => "\n    ".intercalate (cause.message.splitOn "\n")

/-- What is told about a fault. -/
def report (fault : Fault) : String :=
  let heading := "Error: " ++ fault.message ++ "\n"
  match fault.causeText? with
  | some cause => heading ++ "\nCaused by:\n    " ++ cause ++ "\n"
  | none => heading

/-- The exit code of a run that ends with a fault. -/
def exitCode : Fault → Nat
  | .job .overflow => 101
  | _ => 1

end Fault

/-- The exit code of a line that asks for nothing. -/
def Stop.exitCode : Stop → Nat
  | .help | .version => 0
  | .misuse => 2

/-! ## Compilation -/

/-- The texts that a job compiles to: the module and the manifest. -/
structure Product where
  module : String
  manifest : String
  deriving DecidableEq

/-- Compiles the text of a job file. -/
def compileText (s : Settings) (path text : String) : Except Fault Product :=
  match (Toml.parse? text).bind fun fields => Job.ofDatum? (.table fields) with
  | none => .error (.invalidJob path)
  | some job =>
    match s.compiler with
    | .error cause => .error (.catalogs cause)
    | .ok c =>
      match job.compile c with
      | .error fault => .error (.job fault)
      | .ok (m, sets) =>
        .ok ⟨m.render, Json.pretty (.list (sets.map CompiledSet.toDatum))⟩

/-! ## Runs -/

variable {m : Type → Type} [Monad m] [FileSystem m]

/-- A run that may end with a fault. -/
abbrev RunM (m : Type → Type) := ExceptT Fault m

/-- Writes a text, or ends with a fault. -/
def writeOr (fault : Failure → Fault) (path text : String) : RunM m Unit := do
  match ← FileSystem.write path text with
  | .ok () => return ()
  | .error e => throw (fault e)

/-- Writes the descriptor that names the module file. -/
def writeDescriptor (output path : String) : RunM m Unit := do
  match fileName? output with
  | some file => writeOr .output path (programDescriptor [file])
  | none => throw .unnamedOutput

/-- Writes the module, the descriptor and the manifest. -/
def writeProduct (files : Compilation) (product : Product) : RunM m Unit := do
  writeOr .output files.output product.module
  if let some path := files.descriptor then writeDescriptor files.output path
  if let some path := files.manifest then writeOr (fun _ => .manifest path) path product.manifest

/-- Compiles a job file. -/
def compile (s : Settings) (files : Compilation) : RunM m Unit := do
  match ← FileSystem.file? files.job with
  | some (.text text) =>
    match compileText s files.job text with
    | .error fault => throw fault
    | .ok product => writeProduct files product
  | _ => throw (.unreadableJob files.job)

/-- What a run says that succeeds: its standard output, and how much of it is logged. -/
structure Report where
  output : String
  level : LogLevel
  deriving DecidableEq

/-- Carries out a request with given environment variables. -/
def run (environment : List (String × String)) (r : Request) : RunM m Report := do
  let file ← FileSystem.fileAbove? r.settingsPath
  match Settings.ofSources file environment with
  | .error cause => throw (.settings r.settingsPath cause)
  | .ok s =>
    let level := LogLevel.ofVerbosity s.application.logLevel r.verbosity
    match r.task with
    | .compile files =>
      compile s files
      return { output := "", level }
    | .showSettings =>
      match Toml.documentText? s.toSections with
      | some output => return { output, level }
      | none => throw .count

end RobotCell.Command
