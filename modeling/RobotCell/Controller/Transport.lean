import RobotCell.Controller.Value
import RobotCell.Controller.Uuid

/-!
# RobotCell.Controller.Transport

What can be asked of a remote controller.

A `Call` is one remote request and `Call.Answer` the type of its answer; every call may fail with
any failure.  A monad with `Transport` conducts calls.  `Dialogue` is the transport that leaves
every answer open: a tree with one branch for each answer, in which every other transport
follows one path (`Dialogue.run`).  Between its calls a dialogue may make remarks, which nobody
answers and which change nothing.
-/

namespace RobotCell

/-! ## Data -/

/-- The identity of a controller. -/
structure ControllerHandle where
  systemId : Uuid
  address : String
  name : String
  deriving DecidableEq

def ControllerHandle.text (h : ControllerHandle) : String :=
  h.name ++ " (" ++ h.systemId.text ++ ") at " ++ h.address

/-- What a client logs on with, by default the factory account. -/
structure Credentials where
  name : String := "Default User"
  password : String := "robotics"
  deriving DecidableEq

/-- A data item declared in a module; the value is a literal, empty when there is none. -/
structure DataItem where
  module : String
  name : String
  dataType : String
  value : String
  deriving DecidableEq

/-- A place in a program. -/
structure ProgramPosition where
  module : String
  routine : String
  row : Nat
  deriving DecidableEq

/-! ## Calls -/

/-- A remote request. -/
inductive Call where
  | logon (handle : ControllerHandle) (user : Credentials)
  | logoff
  | requestMastership
  | releaseMastership
  | operatingMode
  | putFile (path remote : String) (overwrite : Bool)
  | loadProgram (task remote : String) (mode : LoadMode)
  | loadModule (task remote : String) (mode : LoadMode)
  | getData (task module name : String)
  | setData (task module name value : String)
  | searchData (task module : String)
  | programPointer (task : String)
  | setProgramPointer (task module : String) (row : Nat)
  | resetProgramPointer (task : String)
  | start
  | currentRobtarget (task : String)
  | currentJointtarget (task : String)
  deriving DecidableEq

/-- What a call that succeeds answers. -/
abbrev Call.Answer : Call → Type
  | .operatingMode => OperatingMode
  | .getData _ _ _ => Option DataItem
  | .searchData _ _ => List DataItem
  | .programPointer _ => Option ProgramPosition
  | .currentRobtarget _ => Pose
  | .currentJointtarget _ => JointPose
  | _ => Unit

/-- The calls that change the state of the program or of the task. -/
def Call.isWrite : Call → Bool
  | .putFile .. | .loadProgram .. | .loadModule .. | .setData .. | .setProgramPointer ..
  | .resetProgramPointer .. | .start => true
  | _ => false

/-- A monad that conducts calls. -/
class Transport (m : Type → Type) where
  call : (c : Call) → m (Except Failure c.Answer)

/-! ## Open dialogues -/

/-- A run that stops at every call for an answer, and that makes remarks of type `ν` on its way. -/
inductive Dialogue (ν α : Type) where
  | done (value : α)
  | ask (c : Call) (next : Except Failure c.Answer → Dialogue ν α)
  | tell (remark : ν) (next : Dialogue ν α)

namespace Dialogue

variable {ν : Type}

/-- A dialogue followed by another. -/
def bind {α β : Type} (d : Dialogue ν α) (f : α → Dialogue ν β) : Dialogue ν β :=
  match d with
  | .done value => f value
  | .ask c next => .ask c fun answer => (next answer).bind f
  | .tell remark next => .tell remark (next.bind f)

instance : Monad (Dialogue ν) where
  pure := .done
  bind := bind

instance : Transport (Dialogue ν) := ⟨fun c => .ask c .done⟩

/-- A remark alone. -/
def remark (r : ν) : Dialogue ν Unit := .tell r (.done ())

/-- A way to answer calls from a state that the calls may change. -/
abbrev Responder (σ : Type) := (c : Call) → σ → Except Failure c.Answer × σ

/-- The end of a dialogue whose calls are answered from a state. -/
def run {α σ : Type} (respond : Responder σ) (d : Dialogue ν α) (s : σ) : α × σ :=
  match d with
  | .done value => (value, s)
  | .ask c next =>
    let (answer, s) := respond c s
    (next answer).run respond s
  | .tell _ next => next.run respond s

end Dialogue

end RobotCell
