import RobotCell.Controller.Session
import RobotCell.Program.Document

/-!
# RobotCell.Controller.Workflow

Complete jobs on a controller.

Each workflow logs on, takes mastership when it changes anything, does its work, and gives both
back before it returns.  A program is started in automatic mode only, and the mode is checked
before anything is sent.

The local tree stays as it is while a workflow runs: the files that are found before the logon are
still there, and unchanged, when they are sent.
-/

namespace RobotCell

/-! ## Program files -/

/-- The local files of a program: its descriptor and its module. -/
structure ProgramFiles where
  program : String
  module : String
  deriving DecidableEq

namespace ProgramFiles

/-- The files of a program in a directory. -/
def inDirectory (dir program module : String) : ProgramFiles :=
  ⟨joinPath dir program, joinPath dir (module ++ ".mod")⟩

/-- Writes the module, and then a descriptor that names its file.  The tree that is left after a
failure comes with the failure. -/
def write (p : ProgramFiles) (text : String) (files : Files) : Except Failure Unit × Files :=
  match fileName? p.module with
  | none => (.error (.fileNotFound p.module), files)
  | some file =>
    match files.write p.module text with
    | .error e => (.error e, files)
    | .ok files =>
      match files.write p.program (programDescriptor [file]) with
      | .error e => (.error e, files)
      | .ok files => (.ok (), files)

end ProgramFiles

/-! ## Workflows -/

namespace Workflow

variable {m : Type → Type} [Monad m] [Transport m] {α : Type}

open Session

/-- Fails unless the controller is in automatic mode. -/
def requireAuto : SessionM m Unit := do
  let mode ← operatingMode
  if mode ≠ .auto then refuse (.wrongMode mode)

/-- A body with logon and mastership. -/
def withWriteAccess (handle : ControllerHandle) (body : SessionM m α) : SessionM m α :=
  withLogon handle (withMastership body)

/-- Sends a program with its module and starts it. -/
def sendProgram (files : Files) (handle : ControllerHandle) (p : ProgramFiles) :
    SessionM m Unit :=
  match files.require p.program with
  | .error e => refuse e
  | .ok () =>
    match files.require p.module with
    | .error e => refuse e
    | .ok () =>
      withWriteAccess handle do
        requireAuto
        uploadProgram files p.program
        uploadModule files p.module .add
        startExecution

/-- Writes a `robtarget` item and starts the program anew. -/
def sendTarget (handle : ControllerHandle) (module name text : String) : SessionM m Unit :=
  match Pose.parse text with
  | .error e => refuse e
  | .ok pose =>
    withWriteAccess handle do
      requireAuto
      writeValue module name (.robtarget pose)
      startExecution

/-- Moves the program pointer. -/
def setPointer (handle : ControllerHandle) (module : String) (row : Nat) : SessionM m Unit :=
  withWriteAccess handle (setProgramPointer module row)

/-! ## Reading data -/

/-- The targets of a module, each with its name, in the order of their declarations. -/
structure TargetData where
  robtargets : List (String × Pose) := []
  jointtargets : List (String × JointPose) := []
  deriving DecidableEq

/-- The targets among data items; a target that cannot be read fails. -/
def TargetData.ofItems : List DataItem → Except Failure TargetData
  | [] => .ok {}
  | item :: rest =>
    if item.dataType = "robtarget" then do
      let pose ← Pose.parse item.value
      let targets ← ofItems rest
      return { targets with robtargets := (item.name, pose) :: targets.robtargets }
    else if item.dataType = "jointtarget" then do
      let pose ← JointPose.parse item.value
      let targets ← ofItems rest
      return { targets with jointtargets := (item.name, pose) :: targets.jointtargets }
    else ofItems rest

/-- A tool or a work object that was read from a module. -/
structure ProgramDataEntry where
  dataType : String
  name : String
  value : DataValue
  deriving DecidableEq

/-- The tools and work objects among data items; one that cannot be read fails. -/
def programData : List DataItem → Except Failure (List ProgramDataEntry)
  | [] => .ok []
  | item :: rest =>
    if item.dataType = "tooldata" ∨ item.dataType = "wobjdata" then do
      let value ← DataValue.parseAs item.dataType item.value
      let entries ← programData rest
      return ⟨item.dataType, item.name, value⟩ :: entries
    else programData rest

/-- What a reading of the items of a module gives. -/
def readItems (handle : ControllerHandle) (module : String)
    (f : List DataItem → Except Failure α) : SessionM m α :=
  withLogon handle do
    match f (← searchData module) with
    | .error e => refuse e
    | .ok a => return a

/-- Reads the targets of a module. -/
def readTargetData (handle : ControllerHandle) (module : String) : SessionM m TargetData :=
  readItems handle module TargetData.ofItems

/-- Reads the tools and work objects of a module. -/
def readProgramData (handle : ControllerHandle) (module : String) :
    SessionM m (List ProgramDataEntry) :=
  readItems handle module programData

/-- Reads the pose and the joint angles of the robot. -/
def readPosition (handle : ControllerHandle) : SessionM m (Pose × JointPose) :=
  withLogon handle currentPosition

end Workflow

end RobotCell
