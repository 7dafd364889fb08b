import RobotCell.Controller.Workflow
import RobotCell.Proofs.Workflow.Operation

/-!
# RobotCell.Proofs.Workflow.Order

The workflows and their plans.

`Order.steps` lists what a workflow goes through, in the order of the program: the checks before
anything is called, the logon, the call for mastership when the workflow changes anything, its work,
and the release.  Logging off is no step, since nothing that it answers can make a workflow fail.

The tree of local files is one value for a whole run.  A file that the checks find is therefore
found by the uploads too, and a check that fails is the only way in which a local file stops a
workflow.
-/

namespace RobotCell

namespace Session

variable {ν : Type} {s : Session}

/-- The mode is asked for with one call, and only one mode will do. -/
theorem follows_requireAuto (hs : s.state ≠ .disconnected) :
    Follows (Workflow.requireAuto : SessionM (Dialogue ν) Unit) s [.auto] := by
  refine follows_connected_bind hs (follows_auto_bind ?_ follows_pure)
  intro mode hmode
  exact if_pos hmode

end Session

/-! ## Workflows -/

namespace Workflow

open Session

/-- A workflow with what it is given. -/
inductive Order : Type → Type where
  | sendProgram (files : Files) (p : ProgramFiles) : Order Unit
  | sendTarget (module name text : String) : Order Unit
  | setPointer (module : String) (row : Nat) : Order Unit
  | readTargetData (module : String) : Order TargetData
  | readProgramData (module : String) : Order (List ProgramDataEntry)
  | readPosition : Order (Pose × JointPose)

namespace Order

variable {m : Type → Type} [Monad m] [Transport m] {ν α : Type} {s : Session}

/-- The workflow. -/
def run (handle : ControllerHandle) : Order α → SessionM m α
  | .sendProgram files p => Workflow.sendProgram files handle p
  | .sendTarget module name text => Workflow.sendTarget handle module name text
  | .setPointer module row => Workflow.setPointer handle module row
  | .readTargetData module => Workflow.readTargetData handle module
  | .readProgramData module => Workflow.readProgramData handle module
  | .readPosition => Workflow.readPosition handle

/-- Whether a workflow changes anything on the controller. -/
def mutates : Order α → Bool
  | .sendProgram .. | .sendTarget .. | .setPointer .. => true
  | .readTargetData _ | .readProgramData _ | .readPosition => false

/-- What is checked before anything is called. -/
def checks : Order α → List (Option Failure)
  | .sendProgram files p =>
    [failure? (files.require p.program), failure? (files.require p.module)]
  | .sendTarget _ _ text => [failure? (Pose.parse text)]
  | _ => []

/-- The work between the logon, or the call for mastership, and the way back. -/
def work (task : String) : Order α → List PlanStep
  | .sendProgram _ p =>
    .auto :: ((PlanStep.upload p.program fun remote => .loadProgram task remote .replace) ++
      ((PlanStep.upload p.module fun remote => .loadModule task remote .add) ++
      PlanStep.start task))
  | .sendTarget module name text =>
    match Pose.parse text with
    | .error _ => []
    | .ok pose =>
      .auto :: (PlanStep.write task module name (.robtarget pose) ++ PlanStep.start task)
  | .setPointer module row => [.plain (.setProgramPointer task module row)]
  | .readTargetData module =>
    [.call (.searchData task module) fun items => failure? (TargetData.ofItems items)]
  | .readProgramData module =>
    [.call (.searchData task module) fun items => failure? (programData items)]
  | .readPosition => [.plain (.currentRobtarget task), .plain (.currentJointtarget task)]

/-- All steps of a workflow, in the order of the program. -/
def steps (o : Order α) (handle : ControllerHandle) (s : Session) : List PlanStep :=
  o.checks.map .check ++ PlanStep.plain (.logon handle s.user) ::
    if o.mutates then
      .plain .requestMastership :: (o.work s.task ++ [PlanStep.plain .releaseMastership])
    else o.work s.task

/-- A reading of the items of a module, once logged on. -/
def reading (module : String) (f : List DataItem → Except Failure α) : SessionM m α := do
  match f (← searchData module) with
  | .error e => refuse e
  | .ok a => return a

/-- What a workflow does once it may. -/
def body : Order α → SessionM m α
  | .sendProgram files p => do
    requireAuto
    uploadProgram files p.program
    uploadModule files p.module .add
    startExecution
  | .sendTarget module name text =>
    match Pose.parse text with
    | .error e => refuse e
    | .ok pose => do
      requireAuto
      writeValue module name (.robtarget pose)
      startExecution
  | .setPointer module row => setProgramPointer module row
  | .readTargetData module => reading module TargetData.ofItems
  | .readProgramData module => reading module programData
  | .readPosition => currentPosition

/-- A workflow is refused for the first check that fails, and else is a body in its scopes. -/
theorem run_eq (o : Order α) (handle : ControllerHandle) :
    (o.run handle : SessionM m α) =
      match o.checks.findSome? id with
      | some e => refuse e
      | none => withLogon handle (if o.mutates then withMastership o.body else o.body) := by
  cases o with
  | sendProgram files p =>
      simp only [run, Workflow.sendProgram, checks, mutates, body]
      cases files.require p.program with
      | error e => rfl
      | ok _ =>
          cases files.require p.module with
          | error e => rfl
          | ok _ => rfl
  | sendTarget module name text =>
      simp only [run, Workflow.sendTarget, checks, mutates, body]
      cases Pose.parse text with
      | error e => rfl
      | ok pose => rfl
  | setPointer module row => rfl
  | readTargetData module => rfl
  | readProgramData module => rfl
  | readPosition => rfl

/-- The items of a module are searched for with one call. -/
theorem follows_reading {module : String} {f : List DataItem → Except Failure α}
    (hs : s.state ≠ .disconnected) :
    Follows (reading module f : SessionM (Dialogue ν) α) s
      [.call (.searchData s.task module) fun items => failure? (f items)] := by
  refine follows_connected_bind hs ?_
  rw [bind_assoc]
  refine follows_get_bind (follows_conduct_bind ?_ ?_)
  · intro items e he
    rw [failure?_eq_some_iff.mp he]
  · intro items he
    obtain ⟨a, ha⟩ := failure?_eq_none_iff.mp he
    rw [ha]
    exact follows_pure

/-- The state that the work of a workflow is done in. -/
def state (o : Order α) : SessionState := if o.mutates then .mastershipHeld else .loggedOn

/-- Every order runs with a connection. -/
theorem state_ne_disconnected (o : Order α) : o.state ≠ .disconnected := by
  unfold state
  split <;> decide

/-- An order that changes something runs with mastership. -/
theorem state_eq (o : Order α) (h : o.mutates = true) : o.state = .mastershipHeld := by
  rw [state, if_pos h]

/-- The body of a workflow whose checks have passed goes through its work. -/
theorem follows_body (o : Order α) (hs : s.state = o.state)
    (hchecks : o.checks.findSome? id = none) :
    Follows (o.body : SessionM (Dialogue ν) α) s (o.work s.task) := by
  have hconnected : s.state ≠ .disconnected := hs ▸ o.state_ne_disconnected
  cases o with
  | sendProgram files p =>
      cases hprogram : files.require p.program with
      | error e => simp [checks, hprogram, failure?] at hchecks
      | ok _ =>
          cases hmodule : files.require p.module with
          | error e => simp [checks, hprogram, hmodule, failure?] at hchecks
          | ok _ =>
              exact follows_bind (follows_requireAuto hconnected) fun _ _ =>
                follows_bind (follows_uploadProgram hs hprogram) fun _ _ =>
                follows_bind (follows_uploadModule hs hmodule) fun _ _ =>
                follows_startExecution hs
  | sendTarget module name text =>
      cases htext : Pose.parse text with
      | error e => simp [checks, htext, failure?] at hchecks
      | ok pose =>
          simp only [body, work, htext]
          exact follows_bind (follows_requireAuto hconnected) fun _ _ =>
            follows_bind (follows_writeValue hs) fun _ _ => follows_startExecution hs
  | setPointer module row => exact follows_setProgramPointer hs
  | readTargetData module => exact follows_reading hconnected
  | readProgramData module => exact follows_reading hconnected
  | readPosition => exact follows_connected hconnected follows_positions

/-- The work of a workflow makes only calls that its state allows. -/
theorem work_allowed (o : Order α) (task : String) :
    ∀ step ∈ o.work task, step.AllowedIn o.state := by
  cases o with
  | sendProgram files p =>
      simp only [work, List.forall_mem_cons, List.forall_mem_append]
      exact ⟨PlanStep.allowed_auto, PlanStep.allowed_upload fun _ => rfl,
        PlanStep.allowed_upload fun _ => rfl, PlanStep.allowed_start⟩
  | sendTarget module name text =>
      simp only [work]
      cases Pose.parse text with
      | error e => simp
      | ok pose =>
          simp only [List.forall_mem_cons, List.forall_mem_append]
          exact ⟨PlanStep.allowed_auto, PlanStep.allowed_write, PlanStep.allowed_start⟩
  | setPointer module row =>
      rw [work, List.forall_mem_singleton]
      exact .inr ⟨rfl, rfl⟩
  | readTargetData module | readProgramData module =>
      rw [work, List.forall_mem_singleton]
      exact .inl ⟨rfl, state_ne_disconnected _⟩
  | readPosition =>
      simp only [work, List.forall_mem_cons]
      exact ⟨.inl ⟨rfl, state_ne_disconnected _⟩, .inl ⟨rfl, state_ne_disconnected _⟩, by simp⟩

end Order

end Workflow

end RobotCell
