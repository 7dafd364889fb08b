import RobotCell.Controller.Simulator
import RobotCell.Proofs.Session.Path

/-!
# RobotCell.Proofs.Session.Script

What a client can do with a session.

A `Script` is any finite program over the operations of a session.  It may look at the session and
at every result before it goes on, and the body of a scope is a script again.  Running one makes
remarks: that the client is in control, that a logoff has returned, and that a scope is about to
give mastership back.
-/

namespace RobotCell

/-- The failure that a result is. -/
def failure? {α : Type} : Except Failure α → Option Failure
  | .error e => some e
  | .ok _ => none

/-- The failure of a result is its error. -/
theorem failure?_eq_some_iff {α : Type} {result : Except Failure α} {e : Failure} :
    failure? result = some e ↔ result = .error e := by
  cases result <;> simp [failure?]

/-- A result without a failure is an answer. -/
theorem failure?_eq_none_iff {α : Type} {result : Except Failure α} :
    failure? result = none ↔ ∃ a, result = .ok a := by
  cases result <;> simp [failure?]

/-! ## Operations -/

/-- A read or write operation of a session. -/
inductive Operation : Type → Type where
  | operatingMode : Operation OperatingMode
  | uploadModule (files : Files) (path : String) (mode : LoadMode) : Operation Unit
  | uploadProgram (files : Files) (path : String) : Operation Unit
  | startExecution : Operation Unit
  | writeValue (module name : String) (value : DataValue) : Operation Unit
  | writeText (module name text : String) : Operation Unit
  | readValue (module name : String) : Operation DataValue
  | searchData (module : String) : Operation (List DataItem)
  | setProgramPointer (module : String) (row : Nat) : Operation Unit
  | programPointer : Operation (Option ProgramPosition)
  | currentPosition : Operation (Pose × JointPose)
  | subscribe : Operation Unit

namespace Operation

variable {m : Type → Type} [Monad m] [Transport m] {α : Type}

/-- The operation of the session. -/
def run : Operation α → SessionM m α
  | .operatingMode => Session.operatingMode
  | .uploadModule files path mode => Session.uploadModule files path mode
  | .uploadProgram files path => Session.uploadProgram files path
  | .startExecution => Session.startExecution
  | .writeValue module name value => Session.writeValue module name value
  | .writeText module name text => Session.writeText module name text
  | .readValue module name => Session.readValue module name
  | .searchData module => Session.searchData module
  | .setProgramPointer module row => Session.setProgramPointer module row
  | .programPointer => Session.programPointer
  | .currentPosition => Session.currentPosition
  | .subscribe => Session.subscribe

/-- What is wrong with an operation before the session is looked at: a local file that is not there,
or a text that is no value. -/
def fault? : Operation α → Option Failure
  | .uploadModule files path _ | .uploadProgram files path => failure? (files.require path)
  | .writeText _ _ text => failure? (DataValue.parse text)
  | _ => none

end Operation

/-! ## Scripts -/

/-- A program of a client, for results of a type. -/
inductive Script : Type → Type 1 where
  | done {α : Type} (result : Except Failure α) : Script α
  | look {α : Type} (next : Session → Script α) : Script α
  | perform {α β : Type} (o : Operation β) (next : Except Failure β → Script α) : Script α
  | logon {α : Type} (handle : ControllerHandle) (next : Except Failure Unit → Script α) : Script α
  | logoff {α : Type} (next : Script α) : Script α
  | withLogon {α β : Type} (handle : ControllerHandle) (body : Script β)
      (next : Except Failure β → Script α) : Script α
  | withMastership {α β : Type} (body : Script β) (next : Except Failure β → Script α) : Script α

/-- A remark of a running script. -/
inductive Remark where
  /-- The client is in control, between two operations. -/
  | control (s : Session)
  /-- A logoff has returned. -/
  | loggedOff
  /-- The body of a scope has ended, and mastership is about to be released. -/
  | leaving (s : Session)

/-- A dialogue that tells how a script goes. -/
abbrev ScriptM := Dialogue Remark

namespace Script

variable {α : Type}

/-- Runs a script on a session. -/
def run {α : Type} : Script α → SessionM ScriptM α
  | .done result => fun s => pure (result, s)
  | .look next => fun s => (next s).run s
  | .perform o next => fun s => do
    let (result, s) ← o.run s
    Dialogue.remark (.control s)
    (next result).run s
  | .logon handle next => fun s => do
    let (result, s) ← Session.logon handle s
    Dialogue.remark (.control s)
    (next result).run s
  | .logoff next => fun s => do
    let (_, s) ← Session.logoff s
    Dialogue.remark .loggedOff
    Dialogue.remark (.control s)
    next.run s
  | .withLogon handle body next => fun s => do
    let (result, s) ← Session.withLogon handle (fun s => do
      Dialogue.remark (.control s)
      body.run s) s
    Dialogue.remark (.control s)
    (next result).run s
  | .withMastership body next => fun s => do
    let (result, s) ← Session.withMastership (fun s => do
      Dialogue.remark (.control s)
      let (result, s) ← body.run s
      Dialogue.remark (.leaving s)
      return (result, s)) s
    Dialogue.remark (.control s)
    (next result).run s

end Script

/-- The handle of the simulated controller. -/
def Simulator.handle : ControllerHandle := ⟨{}, "127.0.0.1", "sim"⟩

end RobotCell
