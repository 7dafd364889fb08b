import RobotCell.Proofs.Workflow.Plan

/-!
# RobotCell.Proofs.Workflow.Operation

The plans of the operations of a session.

`Operation.plan` lists what an operation goes through from any state of its session, in the order of
the program: the checks of what it is given and of the state, and then its calls, each with the
answers that it refuses.  `Operation.follows` says that this is all that it does.
-/

namespace RobotCell

/-! ## Steps -/

namespace PlanStep

/-- Only automatic mode will do. -/
def auto : PlanStep :=
  .call .operatingMode fun mode => if mode = .auto then none else some (.wrongMode mode)

/-- A file is stored under its name. -/
def store (path : String) : List PlanStep :=
  match fileName? path with
  | none => [.check (some (.fileNotFound path))]
  | some remote => [.plain (.putFile path remote true)]

/-- A file is stored, and loaded under its name. -/
def upload (path : String) (load : String → Call) : List PlanStep :=
  store path ++ (fileName? path).toList.map fun remote => .plain (load remote)

/-- An item is looked up, and written when the value fits it. -/
def write (task module name : String) (value : DataValue) : List PlanStep :=
  [.call (.getData task module name) fun
      | none => some (.symbolNotFound module name)
      | some item =>
        if value.fits item.dataType then none
        else some (.typeMismatch name item.dataType value.dataType),
    .plain (.setData task module name value.literal)]

/-- Execution starts at the entry routine. -/
def start (task : String) : List PlanStep :=
  [.auto, .plain (.resetProgramPointer task), .plain .start]

variable {task module name : String}

/-- The mode may be asked for with mastership. -/
theorem allowed_auto : auto.AllowedIn .mastershipHeld := .inl ⟨rfl, by decide⟩

/-- An upload may be made with mastership. -/
theorem allowed_upload {path : String} {load : String → Call}
    (h : ∀ remote, (load remote).isWrite = true) :
    ∀ step ∈ upload path load, step.AllowedIn .mastershipHeld := by
  unfold upload store
  cases fileName? path with
  | none =>
      simp only [Option.toList_none, List.map_nil, List.append_nil, List.forall_mem_cons]
      exact ⟨trivial, by simp⟩
  | some remote =>
      simp only [Option.toList_some, List.map_cons, List.map_nil, List.cons_append, List.nil_append,
        List.forall_mem_cons]
      exact ⟨.inr ⟨rfl, rfl⟩, .inr ⟨h remote, rfl⟩, by simp⟩

/-- A write may be made with mastership. -/
theorem allowed_write {value : DataValue} :
    ∀ step ∈ write task module name value, step.AllowedIn .mastershipHeld := by
  simp only [write, List.forall_mem_cons]
  exact ⟨.inl ⟨rfl, by decide⟩, .inr ⟨rfl, rfl⟩, by simp⟩

/-- A start may be made with mastership. -/
theorem allowed_start : ∀ step ∈ start task, step.AllowedIn .mastershipHeld := by
  simp only [start, List.forall_mem_cons]
  exact ⟨allowed_auto, .inr ⟨rfl, rfl⟩, .inr ⟨rfl, rfl⟩, by simp⟩

/-! ### Calls -/

@[simp] theorem plannedCalls_auto {rest : List PlanStep} :
    plannedCalls (auto :: rest) = .operatingMode :: plannedCalls rest := rfl

/-- An upload makes two calls, if its path has a name. -/
@[simp] theorem plannedCalls_upload {path : String} {load : String → Call} :
    plannedCalls (upload path load) =
      (fileName? path).toList.flatMap fun remote => [.putFile path remote true, load remote] := by
  unfold upload store
  cases fileName? path <;> rfl

@[simp] theorem plannedCalls_write {value : DataValue} :
    plannedCalls (write task module name value) =
      [.getData task module name, .setData task module name value.literal] := rfl

@[simp] theorem plannedCalls_start :
    plannedCalls (start task) = [.operatingMode, .resetProgramPointer task, .start] := rfl

/-! ### Rejections -/

variable {step : PlanStep} {e : Failure}

/-- A plain call rejects no answer. -/
theorem not_rejects_plain {c : Call} : ¬(plain c).Rejects e := by
  rintro ⟨answer, h⟩
  cases h

/-- The wrong mode is a fault of the session. -/
theorem kind_of_rejects_auto (h : auto.Rejects e) : e.kind = .session := by
  obtain ⟨mode, hmode⟩ := h
  by_cases hauto : mode = .auto
  · simp [hauto] at hmode
  · obtain rfl : Failure.wrongMode mode = e := by simpa [hauto] using hmode
    rfl

/-- An item is not written when it is not there, or not declared with a type that the value fits. -/
theorem kind_of_rejects_write {value : DataValue}
    (hstep : step ∈ write task module name value) (h : step.Rejects e) :
    e.kind = .protocol := by
  rcases List.mem_cons.mp hstep with rfl | hstep
  · obtain ⟨answer, hanswer⟩ := h
    cases answer with
    | none =>
        cases hanswer
        rfl
    | some item =>
        simp only at hanswer
        split at hanswer
        · cases hanswer
        · cases hanswer
          rfl
  · obtain rfl := List.mem_singleton.mp hstep
    exact absurd h not_rejects_plain

/-- What a start rejects is a fault of the session. -/
theorem kind_of_rejects_start (hstep : step ∈ start task) (h : step.Rejects e) :
    e.kind = .session := by
  rcases List.mem_cons.mp hstep with rfl | hstep
  · exact kind_of_rejects_auto h
  rcases List.mem_cons.mp hstep with rfl | hstep
  · exact absurd h not_rejects_plain
  · obtain rfl := List.mem_singleton.mp hstep
    exact absurd h not_rejects_plain

end PlanStep

namespace Session

variable {ν α : Type} {s : Session} {rest : List PlanStep} {files : Files}
  {path module name : String} {value : DataValue}

/-- A transfer of a file that is there stores it. -/
theorem follows_transfer {operation : String} (hs : s.state = .mastershipHeld)
    (hfile : files.require path = .ok ()) :
    Follows (transfer files operation path : SessionM (Dialogue ν) String) s
      (PlanStep.store path) := by
  unfold transfer PlanStep.store
  rw [hfile, ← hs]
  refine follows_inState ?_
  cases fileName? path with
  | none => exact follows_refuse
  | some remote => exact follows_bind follows_conduct fun _ _ => follows_pure

/-- A transfer that goes on with a call for the name of the file. -/
theorem follows_upload {operation : String} {load : String → Call}
    {f : String → SessionM (Dialogue ν) Unit} (hs : s.state = .mastershipHeld)
    (hfile : files.require path = .ok ())
    (hf : ∀ remote, Follows (f remote) s [.plain (load remote)]) :
    Follows (transfer files operation path >>= f) s (PlanStep.upload path load) := by
  refine follows_bind (follows_transfer hs hfile) fun remote ⟨_, hrun⟩ => ?_
  rw [(of_runs_transfer hrun).2]
  exact hf remote

/-- The upload of a program that is there goes by its plan. -/
theorem follows_uploadProgram (hs : s.state = .mastershipHeld)
    (hfile : files.require path = .ok ()) :
    Follows (uploadProgram files path : SessionM (Dialogue ν) Unit) s
      (PlanStep.upload path fun remote => .loadProgram s.task remote .replace) :=
  follows_upload hs hfile fun _ => follows_get_bind follows_conduct

/-- The upload of a module that is there goes by its plan. -/
theorem follows_uploadModule {mode : LoadMode} (hs : s.state = .mastershipHeld)
    (hfile : files.require path = .ok ()) :
    Follows (uploadModule files path mode : SessionM (Dialogue ν) Unit) s
      (PlanStep.upload path fun remote => .loadModule s.task remote mode) :=
  follows_upload hs hfile fun _ => follows_get_bind follows_conduct

/-- What follows the mode in automatic mode goes on from it, and refuses every other mode. -/
theorem follows_auto_bind {f : OperatingMode → SessionM (Dialogue ν) α}
    (hbad : ∀ mode, mode ≠ .auto → f mode = refuse (.wrongMode mode))
    (hgood : Follows (f .auto) s rest) :
    Follows (conduct .operatingMode >>= f) s (.auto :: rest) := by
  refine follows_conduct_bind ?_ ?_
  · intro mode e he
    by_cases hauto : mode = .auto
    · simp [hauto] at he
    · obtain rfl : Failure.wrongMode mode = e := by simpa [hauto] using he
      exact hbad mode hauto
  · intro mode he
    by_cases hauto : mode = .auto
    · rwa [hauto]
    · simp [hauto] at he

/-- A start goes by its plan. -/
theorem follows_startExecution (hs : s.state = .mastershipHeld) :
    Follows (startExecution : SessionM (Dialogue ν) Unit) s (PlanStep.start s.task) := by
  unfold startExecution
  rw [← hs]
  refine follows_inState (follows_auto_bind ?_ ?_)
  · intro mode hmode
    exact if_pos hmode
  · exact follows_get_bind (follows_bind follows_conduct fun _ _ => follows_conduct)

/-- A write goes by its plan. -/
theorem follows_writeValue (hs : s.state = .mastershipHeld) :
    Follows (writeValue module name value : SessionM (Dialogue ν) Unit) s
      (PlanStep.write s.task module name value) := by
  unfold writeValue lookup
  rw [← hs]
  simp only [bind_assoc]
  refine follows_inState (follows_get_bind (follows_conduct_bind ?_ ?_))
  · intro item? e he
    cases item? with
    | none =>
        cases he
        rfl
    | some item =>
        cases hfits : value.fits item.dataType with
        | true => simp [hfits] at he
        | false =>
            obtain rfl : Failure.typeMismatch name item.dataType value.dataType = e := by
              simpa [hfits] using he
            exact if_pos (by rw [hfits]; rfl)
  · intro item? he
    cases item? with
    | none => contradiction
    | some item =>
        cases hfits : value.fits item.dataType with
        | true => simpa [hfits] using follows_get_bind follows_conduct
        | false => simp [hfits] at he

/-- A pointer is set with one call. -/
theorem follows_setProgramPointer {row : Nat} (hs : s.state = .mastershipHeld) :
    Follows (setProgramPointer module row : SessionM (Dialogue ν) Unit) s
      [.plain (.setProgramPointer s.task module row)] := by
  unfold setProgramPointer
  rw [← hs]
  exact follows_inState (follows_get_bind follows_conduct)

end Session

/-! ## Every operation -/

namespace PlanStep

/-- The session must be in a state. -/
def inState (operation : String) (wanted : SessionState) (s : Session) : PlanStep :=
  .check (if s.state = wanted then none
    else some (.wrongState operation wanted.name s.state.name))

/-- The session must be logged on. -/
def connected (operation : String) (s : Session) : PlanStep :=
  .check (if s.state = .disconnected then
      some (.wrongState operation SessionState.loggedOn.name SessionState.disconnected.name)
    else none)

/-- An item is looked up, and something may be wrong with it. -/
def lookup (task module name : String) (fault? : DataItem → Option Failure) : PlanStep :=
  .call (.getData task module name) fun
    | none => some (.symbolNotFound module name)
    | some item => fault? item

variable {rest : List PlanStep}

@[simp] theorem plannedCalls_inState {operation : String} {wanted : SessionState} {s : Session} :
    plannedCalls (inState operation wanted s :: rest) = plannedCalls rest := rfl

@[simp] theorem plannedCalls_connected {operation : String} {s : Session} :
    plannedCalls (connected operation s :: rest) = plannedCalls rest := rfl

@[simp] theorem plannedCalls_lookup {task module name : String}
    {fault? : DataItem → Option Failure} :
    plannedCalls (lookup task module name fault? :: rest) =
      .getData task module name :: plannedCalls rest := rfl

end PlanStep

namespace Session

variable {ν α : Type} {s : Session} {steps : List PlanStep} {files : Files}
  {path module name operation : String} {value : DataValue}

/-- An operation that has failed without a call goes no further. -/
theorem follows_of_refuse {x : SessionM (Dialogue ν) α} {e : Failure} (h : x s = refuse e s) :
    Follows x s (.check (some e) :: steps) := by
  intro events out hrun
  rw [Runs, h] at hrun
  obtain ⟨rfl, rfl⟩ := runs_refuse_iff.mp hrun
  exact ⟨rfl, .blocked e⟩

/-- A check that passes is no step. -/
theorem follows_passed {x : SessionM (Dialogue ν) α} (h : Follows x s steps) :
    Follows x s (.check none :: steps) := fun events out hrun =>
  ⟨(h events out hrun).1, .passed (h events out hrun).2⟩

/-- An operation for one state checks that it is in it. -/
theorem follows_inState_step {wanted : SessionState} {body : SessionM (Dialogue ν) α}
    (h : s.state = wanted → Follows (inState operation wanted body) s steps) :
    Follows (inState operation wanted body) s (.inState operation wanted s :: steps) := by
  unfold PlanStep.inState
  by_cases hstate : s.state = wanted
  · rw [if_pos hstate]
    exact follows_passed (h hstate)
  · rw [if_neg hstate]
    exact follows_of_refuse (if_neg hstate)

theorem follows_connected_step {body : SessionM (Dialogue ν) α}
    (h : s.state ≠ .disconnected → Follows body s steps) :
    Follows (connected operation body) s (.connected operation s :: steps) := by
  unfold PlanStep.connected
  by_cases hstate : s.state = .disconnected
  · rw [if_pos hstate]
    refine follows_of_refuse ?_
    unfold connected
    rw [hstate]
  · rw [if_neg hstate]
    exact follows_passed (follows_connected hstate (h hstate))

/-- The value of an item is read when it is there and fits its declared type. -/
theorem follows_readItem :
    Follows (do
      let item ← lookup module name
      match DataValue.parseAs item.dataType item.value with
      | .error e => refuse e
      | .ok value => return value : SessionM (Dialogue ν) DataValue) s
      [.lookup s.task module name fun item =>
        failure? (DataValue.parseAs item.dataType item.value)] := by
  unfold lookup
  simp only [bind_assoc]
  refine follows_get_bind (follows_conduct_bind ?_ ?_)
  · intro item? e he
    cases item? with
    | none =>
        cases he
        rfl
    | some item => simp only [pure_bind, failure?_eq_some_iff.mp he]
  · intro item? he
    cases item? with
    | none => contradiction
    | some item =>
        obtain ⟨value, hvalue⟩ := failure?_eq_none_iff.mp he
        simp only [pure_bind, hvalue]
        exact follows_pure

/-- The two positions are read with one call each. -/
theorem follows_positions :
    Follows (do
      let pose ← conduct (.currentRobtarget (← get).task)
      let joints ← conduct (.currentJointtarget (← get).task)
      return (pose, joints) : SessionM (Dialogue ν) (Pose × JointPose)) s
      [.plain (.currentRobtarget s.task), .plain (.currentJointtarget s.task)] :=
  follows_get_bind (follows_bind follows_conduct fun _ _ =>
    follows_get_bind (follows_bind follows_conduct fun _ _ => follows_pure))

/-- An upload checks its file, and then its state. -/
theorem follows_upload_step {load : String → Call} {f : String → SessionM (Dialogue ν) Unit}
    (hf : ∀ remote, Follows (f remote) s [.plain (load remote)]) :
    Follows (transfer files operation path >>= f) s
      (.check (failure? (files.require path)) :: .inState operation .mastershipHeld s ::
        PlanStep.upload path load) := by
  cases hfile : files.require path with
  | error e =>
      refine follows_of_refuse ?_
      simp only [transfer, hfile]
      rfl
  | ok _ =>
      refine follows_passed ?_
      unfold PlanStep.inState
      by_cases hstate : s.state = .mastershipHeld
      · rw [if_pos hstate]
        exact follows_passed (follows_upload hstate hfile hf)
      · rw [if_neg hstate]
        refine follows_of_refuse ?_
        have hrefused : transfer files operation path s =
            (refuse (.wrongState operation SessionState.mastershipHeld.name s.state.name) :
              SessionM (Dialogue ν) String) s := by
          simp only [transfer, hfile, inState, if_neg hstate]
        exact congrArg (· >>= fun first => ExceptT.bindCont f first.1 first.2) hrefused

end Session

namespace Operation

variable {α : Type} {s : Session}

/-- The steps of an operation, from any state of its session. -/
def plan (s : Session) : Operation α → List PlanStep
  | .operatingMode => [.connected "operating mode" s, .plain .operatingMode]
  | .uploadModule files path mode =>
    .check (failure? (files.require path)) :: .inState "upload module" .mastershipHeld s ::
      PlanStep.upload path fun remote => .loadModule s.task remote mode
  | .uploadProgram files path =>
    .check (failure? (files.require path)) :: .inState "upload program" .mastershipHeld s ::
      PlanStep.upload path fun remote => .loadProgram s.task remote .replace
  | .startExecution => .inState "start execution" .mastershipHeld s :: PlanStep.start s.task
  | .writeValue module name value =>
    .inState "write named value" .mastershipHeld s :: PlanStep.write s.task module name value
  | .writeText module name text =>
    match DataValue.parse text with
    | .error e => [.check (some e)]
    | .ok value =>
      .inState "write named value" .mastershipHeld s :: PlanStep.write s.task module name value
  | .readValue module name =>
    [.connected "read named value" s, .lookup s.task module name fun item =>
      failure? (DataValue.parseAs item.dataType item.value)]
  | .searchData module => [.connected "search data" s, .plain (.searchData s.task module)]
  | .setProgramPointer module row =>
    [.inState "set program pointer" .mastershipHeld s,
      .plain (.setProgramPointer s.task module row)]
  | .programPointer => [.connected "program pointer" s, .plain (.programPointer s.task)]
  | .currentPosition =>
    [.connected "current position" s, .plain (.currentRobtarget s.task),
      .plain (.currentJointtarget s.task)]
  | .subscribe => [.connected "subscribe pointers" s]

open Session

/-- **Operations go through their plans**, whatever the state of the session. -/
theorem follows {ν : Type} (o : Operation α) (s : Session) :
    Follows (o.run : SessionM (Dialogue ν) α) s (o.plan s) := by
  cases o with
  | operatingMode =>
      exact follows_connected_step fun _ => follows_conduct
  | uploadModule files path mode =>
      exact follows_upload_step fun _ => follows_get_bind follows_conduct
  | uploadProgram files path =>
      exact follows_upload_step fun _ => follows_get_bind follows_conduct
  | startExecution => exact follows_inState_step follows_startExecution
  | writeValue module name value => exact follows_inState_step follows_writeValue
  | writeText module name text =>
      simp only [run, Session.writeText, plan]
      cases DataValue.parse text with
      | error e => exact follows_of_refuse rfl
      | ok value => exact follows_inState_step follows_writeValue
  | readValue module name =>
      exact follows_connected_step fun _ => follows_readItem
  | searchData module =>
      exact follows_connected_step fun _ => follows_get_bind follows_conduct
  | setProgramPointer module row => exact follows_inState_step follows_setProgramPointer
  | programPointer => exact follows_connected_step fun _ => follows_get_bind follows_conduct
  | currentPosition => exact follows_connected_step fun _ => follows_positions
  | subscribe => exact follows_connected_step fun _ => follows_pure

end Operation

end RobotCell
