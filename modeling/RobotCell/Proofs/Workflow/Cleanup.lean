import RobotCell.Proofs.Session.Lifecycle
import RobotCell.Proofs.Workflow.Order

/-!
# RobotCell.Proofs.Workflow.Cleanup

Workflows leave nothing open.

`Conducts` lists the four ways that a workflow can go once its checks have passed, and everything
about its calls and its failure is read off from there: what a logon or a call for mastership opened
is closed again, once and at the end, and the failure is that of the first step that fails.
-/

namespace RobotCell

open Session

/-! ## Events -/

/-- A certain call, whatever it answers. -/
def Event.IsCall {ν : Type} (c : Call) (e : Event ν) : Prop := ∃ answer, e = .call c answer

/-- The calls that open and close a scope, which the work of a workflow does not make. -/
def Call.isScope : Call → Bool
  | .logon .. | .logoff | .requestMastership | .releaseMastership => true
  | _ => false

theorem Call.AllowedIn.isScope_eq {c : Call} {state : SessionState} (h : c.AllowedIn state) :
    c.isScope = false := by
  cases c <;> simp_all [Call.AllowedIn, Call.isRead, Call.isWrite, Call.isScope]

/-- An allowed call outside mastership writes nothing. -/
theorem Call.AllowedIn.isWrite_eq {c : Call} (h : c.AllowedIn .loggedOn) : c.isWrite = false := by
  cases c <;> simp_all [Call.AllowedIn, Call.isRead, Call.isWrite]

namespace Workflow.Order

variable {ν α : Type} {o : Order α} {handle : ControllerHandle} {s : Session}
  {events : List (Event ν)} {out : Except Failure α × Session} {failure : Option Failure}

/-- The events of work are calls that its state allows. -/
theorem allowed_of_performs (h : Performs (o.work s.task) events failure) {e : Event ν}
    (he : e ∈ events) : ∃ c answer, e = .call c answer ∧ c.AllowedIn o.state := by
  obtain ⟨c, fault?, answer, heq, hmem⟩ := h.exists_call he
  exact ⟨c, answer, heq, o.work_allowed s.task _ hmem⟩

/-! ## The ways of a workflow -/

/-- The ways that a workflow can go from a disconnected session, with their events and failures. -/
inductive Conducts (o : Order α) (handle : ControllerHandle) (s : Session) :
    List (Event ν) → Option Failure → Prop where
  | logonFails (e : Failure) :
      Conducts o handle s [.call (.logon handle s.user) (.error e)] (some e)
  | read {events : List (Event ν)} {failure : Option Failure} (h : o.mutates = false)
      (hwork : Performs (o.work s.task) events failure) (b : Except Failure Unit) :
      Conducts o handle s
        (.call (.logon handle s.user) (.ok ()) :: (events ++ [Event.call .logoff b])) failure
  | requestFails (h : o.mutates = true) (e : Failure) (b : Except Failure Unit) :
      Conducts o handle s [.call (.logon handle s.user) (.ok ()),
        .call .requestMastership (.error e), .call .logoff b] (some e)
  | write {events : List (Event ν)} {failure : Option Failure} (h : o.mutates = true)
      (hwork : Performs (o.work s.task) events failure) (a b : Except Failure Unit) :
      Conducts o handle s (.call (.logon handle s.user) (.ok ()) ::
          .call .requestMastership (.ok ()) ::
          (events ++ [Event.call .releaseMastership a, .call .logoff b]))
        (failure.or (failure? a))

theorem failure?_scopeResult {result : Except Failure α} {released : Except Failure Unit} :
    failure? (scopeResult result released) = (failure? result).or (failure? released) := by
  cases result <;> cases released <;> rfl

/-- What is done with a logon keeps it, and a logoff that follows completes one of the ways. -/
theorem conducts_of_runs_scope (hchecks : o.checks.findSome? id = none)
    {result : Except Failure α} {s' : Session}
    (h : Runs (if o.mutates then withMastership o.body else o.body) (s.loggedOnTo handle) events
      (result, s')) :
    s' = s.loggedOnTo handle ∧ ∀ b, Conducts o handle s (.call (.logon handle s.user) (.ok ()) ::
      (events ++ [Event.call .logoff b])) (failure? result) := by
  cases hmutates : o.mutates with
  | false =>
      rw [hmutates] at h
      have hstate : (s.loggedOnTo handle).state = o.state := by rw [state, hmutates]; rfl
      obtain ⟨hs', hwork⟩ := o.follows_body hstate hchecks _ _ h
      exact ⟨hs', .read hmutates hwork⟩
  | true =>
      rw [hmutates] at h
      rcases runs_withMastership_iff.mp h with ⟨hstate, _⟩ | ⟨_, e, rfl, hout⟩ |
        ⟨_, middle, r, s₁, released, rfl, hbody, hout⟩
      · exact absurd rfl hstate
      · cases hout
        exact ⟨rfl, .requestFails hmutates e⟩
      · cases hout
        have hstate : SessionState.mastershipHeld = o.state := (o.state_eq hmutates).symm
        obtain ⟨rfl, hwork⟩ := o.follows_body hstate hchecks _ _ hbody
        have hperforms : Performs (o.work s.task) middle (failure? r) := hwork
        refine ⟨rfl, fun b => ?_⟩
        rw [failure?_scopeResult, List.cons_append, List.append_assoc]
        exact .write hmutates hperforms released b

/-- A workflow whose checks have passed goes one of the ways, and leaves its session alone or ends
it. -/
theorem conducts_of_disconnected (hs : s.state = .disconnected)
    (hchecks : o.checks.findSome? id = none) (h : Runs (o.run handle) s events out) :
    (out.2 = s ∨ out.2 = (s.loggedOnTo handle).ended) ∧
      Conducts o handle s events (failure? out.1) := by
  rw [o.run_eq, hchecks] at h
  rcases runs_withLogon_iff.mp h with ⟨e, s₁, hlogon, rfl⟩ |
    ⟨first, s₁, middle, result, s₂, last, ended, s₃, rfl, hlogon, hscope, hlogoff, rfl⟩
  · rcases runs_logon_iff.mp hlogon with ⟨hstate, _⟩ | ⟨_, e', rfl, hout⟩ | ⟨_, _, hout⟩
    · contradiction
    · cases hout
      exact ⟨.inl rfl, .logonFails e⟩
    · cases hout
  · rcases runs_logon_iff.mp hlogon with ⟨hstate, _⟩ | ⟨_, e', _, hout⟩ | ⟨_, rfl, hout⟩
    · contradiction
    · cases hout
    · cases hout
      obtain ⟨rfl, hconducts⟩ := conducts_of_runs_scope hchecks hscope
      rcases runs_logoff_iff.mp hlogoff with ⟨hstate, _⟩ | ⟨_, b, rfl, hout⟩ | ⟨hstate, _⟩
      · contradiction
      · cases hout
        exact ⟨.inr rfl, hconducts b⟩
      · contradiction

/-- On a session without a handle, it ends where it began. -/
theorem conducts_of_runs (hs : s.state = .disconnected) (hhandle : s.handle = none)
    (hchecks : o.checks.findSome? id = none) (h : Runs (o.run handle) s events out) :
    out.2 = s ∧ Conducts o handle s events (failure? out.1) := by
  obtain ⟨hsession, hconducts⟩ := conducts_of_disconnected hs hchecks h
  rcases hsession with hsame | hended
  · exact ⟨hsame, hconducts⟩
  · exact ⟨hended.trans (loggedOnTo_ended hs hhandle), hconducts⟩

/-! ## The result -/

/-- Nothing is left open by a workflow, and its failure is that of the first step that fails. -/
structure CleansUp (o : Order α) (handle : ControllerHandle) (s : Session)
    (events : List (Event ν)) (failure : Option Failure) : Prop where
  /-- A logon that succeeds is followed by one logoff, the last call of all. -/
  loggedOff : ∀ controller user, .call (.logon controller user) (.ok ()) ∈ events → ∃ before b,
    events = before ++ [Event.call .logoff b] ∧ ∀ e ∈ before, ¬e.IsCall .logoff
  /-- A logon that fails is the only call. -/
  logonFails : ∀ controller user e, .call (.logon controller user) (.error e) ∈ events →
    events = [.call (.logon controller user) (.error e)]
  /-- A call for mastership that succeeds is followed by one release, right before the logoff. -/
  released : .call .requestMastership (.ok ()) ∈ events → ∃ before middle a b,
    events = before ++ Event.call .requestMastership (.ok ()) ::
      (middle ++ [Event.call .releaseMastership a, .call .logoff b]) ∧
    ∀ e ∈ before ++ middle, ¬e.IsCall .requestMastership ∧ ¬e.IsCall .releaseMastership ∧
      ¬e.IsCall .logoff
  /-- A workflow that only reads calls for no mastership and writes nothing. -/
  reads : o.mutates = false → ∀ e ∈ events, ¬e.IsCall .requestMastership ∧ e.isWrite = false
  /-- The steps are gone through up to the first that fails, and after them only the way back. -/
  first_failure : ∃ main back, events = main ++ back ∧
    Performs (o.steps handle s) main failure ∧
    ∀ e ∈ back, e.IsCall .releaseMastership ∨ e.IsCall .logoff

/-- The work of a workflow opens and closes nothing. -/
theorem not_isCall_of_performs (h : Performs (o.work s.task) events failure) {e : Event ν}
    (he : e ∈ events) {c : Call} (hc : c.isScope = true) : ¬e.IsCall c := by
  rintro ⟨answer, rfl⟩
  obtain ⟨c', answer', heq, hallowed⟩ := allowed_of_performs h he
  cases heq
  simp [hallowed.isScope_eq] at hc

theorem not_mem_of_performs (h : Performs (o.work s.task) events failure) {c : Call}
    (hc : c.isScope = true) {answer : Except Failure c.Answer} : Event.call c answer ∉ events :=
  fun he => not_isCall_of_performs h he hc ⟨answer, rfl⟩

/-- The steps of a workflow that only reads. -/
theorem performs_steps_read (hchecks : o.checks.findSome? id = none) (hmutates : o.mutates = false)
    (hwork : Performs (o.work s.task) events failure) :
    Performs (o.steps handle s) (.call (.logon handle s.user) (.ok ()) :: events) failure := by
  unfold steps
  rw [hmutates]
  exact .checks_passed hchecks (.accepted rfl hwork)

theorem performs_steps_write (hchecks : o.checks.findSome? id = none) (hmutates : o.mutates = true)
    (hwork : Performs (o.work s.task ++ [PlanStep.plain .releaseMastership]) events failure) :
    Performs (o.steps handle s) (.call (.logon handle s.user) (.ok ()) ::
      .call .requestMastership (.ok ()) :: events) failure := by
  unfold steps
  rw [hmutates]
  exact .checks_passed hchecks (.accepted rfl (.accepted rfl hwork))

theorem Conducts.first_failure (h : Conducts o handle s events failure)
    (hchecks : o.checks.findSome? id = none) : ∃ main back, events = main ++ back ∧
      Performs (o.steps handle s) main failure ∧
      ∀ e ∈ back, e.IsCall .releaseMastership ∨ e.IsCall .logoff := by
  cases h with
  | logonFails e =>
      refine ⟨[.call (.logon handle s.user) (.error e)], [], rfl, ?_, by simp⟩
      unfold steps
      exact .checks_passed hchecks (.refused e)
  | @read middle failure hread hwork b =>
      refine ⟨.call (.logon handle s.user) (.ok ()) :: middle, [.call .logoff b], rfl, ?_,
        by simp [Event.IsCall]⟩
      exact performs_steps_read hchecks hread hwork
  | requestFails hwrite e b =>
      refine ⟨[_, _], [.call .logoff b], rfl, ?_, by simp [Event.IsCall]⟩
      unfold steps
      rw [hwrite]
      exact .checks_passed hchecks (.accepted rfl (.refused e))
  | @write middle failure hwrite hwork a b =>
      cases failure with
      | some e =>
          refine ⟨.call (.logon handle s.user) (.ok ()) ::
            .call .requestMastership (.ok ()) :: middle,
            [.call .releaseMastership a, .call .logoff b], rfl, ?_, by simp [Event.IsCall]⟩
          exact performs_steps_write hchecks hwrite hwork.append_of_failed
      | none =>
          refine ⟨.call (.logon handle s.user) (.ok ()) :: .call .requestMastership (.ok ()) ::
            (middle ++ [Event.call .releaseMastership a]), [.call .logoff b], by simp, ?_,
            by simp [Event.IsCall]⟩
          refine performs_steps_write hchecks hwrite (hwork.append ?_)
          cases a with
          | error e => exact .refused e
          | ok _ => exact .accepted rfl .done

theorem Conducts.cleansUp (h : Conducts o handle s events failure)
    (hchecks : o.checks.findSome? id = none) : CleansUp o handle s events failure := by
  have hfirst := h.first_failure hchecks
  cases h with
  | logonFails e =>
      refine ⟨by simp, ?_, by simp, fun _ => ?_, hfirst⟩
      · intro controller user e' he
        rw [List.mem_singleton.mp he]
      · simp [Event.IsCall, Event.isWrite, Call.isWrite]
  | requestFails hwrite e b =>
      refine ⟨fun _ _ _ => ⟨[_, _], b, rfl, ?_⟩, by simp, by simp, by simp [hwrite], hfirst⟩
      simp [Event.IsCall]
  | @read middle failure hread hwork b =>
      refine ⟨fun _ _ _ => ⟨_ :: middle, b, rfl, ?_⟩, ?_, ?_, fun _ => ?_, hfirst⟩
      · rw [List.forall_mem_cons]
        exact ⟨by simp [Event.IsCall], fun e he => not_isCall_of_performs hwork he rfl⟩
      · intro controller user e he
        exact absurd (by simpa using he) (not_mem_of_performs hwork rfl)
      · intro he
        exact absurd (by simpa using he) (not_mem_of_performs hwork rfl)
      · simp only [List.forall_mem_cons, List.forall_mem_append]
        refine ⟨⟨by simp [Event.IsCall], rfl⟩, fun e he => ⟨?_, ?_⟩,
          ⟨by simp [Event.IsCall], rfl⟩, by simp⟩
        · exact not_isCall_of_performs hwork he rfl
        · obtain ⟨c, answer, rfl, hallowed⟩ := allowed_of_performs hwork he
          rw [state, hread] at hallowed
          exact hallowed.isWrite_eq
  | @write middle failure hwrite hwork a b =>
      have hother : ∀ e ∈ middle, ∀ c, c.isScope = true → ¬e.IsCall c :=
        fun e he c => not_isCall_of_performs hwork he
      have hsplit : middle ++ [Event.call .releaseMastership a, .call .logoff b] =
          middle ++ [Event.call .releaseMastership a] ++ [Event.call .logoff b] := by simp
      refine ⟨fun _ _ _ => ⟨_ :: _ :: (middle ++ [_]), b, by rw [hsplit]; rfl, ?_⟩, ?_,
        fun _ => ⟨[_], middle, a, b, rfl, ?_⟩, by simp [hwrite], hfirst⟩
      · simp only [List.forall_mem_cons, List.forall_mem_append]
        exact ⟨by simp [Event.IsCall], by simp [Event.IsCall], fun e he => hother e he _ rfl,
          by simp [Event.IsCall]⟩
      · intro controller user e he
        exact absurd (by simpa using he) (not_mem_of_performs hwork rfl)
      · simp only [List.forall_mem_append]
        exact ⟨by simp [Event.IsCall], fun e he =>
          ⟨hother e he _ rfl, hother e he _ rfl, hother e he _ rfl⟩⟩

/-- A workflow that fails its checks makes no call, and one that passes them refuses a session that
is not disconnected. -/
theorem refused_of_runs (h : Runs (o.run handle) s events out)
    (hrefused : (o.checks.findSome? id).isSome = true ∨ s.state ≠ .disconnected) :
    events = [] ∧ out = (.error ((o.checks.findSome? id).getD
      (.wrongState "logon" "Disconnected" s.state.name)), s) := by
  rw [o.run_eq] at h
  cases hchecks : o.checks.findSome? id with
  | some e =>
      rw [hchecks] at h
      exact runs_refuse_iff.mp h
  | none =>
      rw [hchecks] at h hrefused
      have hstate : s.state ≠ .disconnected := by simpa using hrefused
      rcases runs_withLogon_iff.mp h with ⟨e, s₁, hlogon, rfl⟩ |
        ⟨first, s₁, middle, result, s₂, last, ended, s₃, rfl, hlogon, _⟩
      · rcases runs_logon_iff.mp hlogon with ⟨_, rfl, hout⟩ | ⟨hdisconnected, _⟩ |
          ⟨hdisconnected, _⟩
        · cases hout
          exact ⟨rfl, rfl⟩
        · contradiction
        · contradiction
      · rcases runs_logon_iff.mp hlogon with ⟨_, _, hout⟩ | ⟨hdisconnected, _⟩ |
          ⟨hdisconnected, _⟩
        · cases hout
        · contradiction
        · contradiction

end Workflow.Order

/-- **Workflows clean up**: a workflow on a disconnected session leaves it disconnected with no
handle, whatever the calls answer, with everything closed that it opened and with the failure of the
first step that failed; on any other session it fails without a call and leaves it as it is. -/
theorem workflow_cleanup {ν α : Type} {o : Workflow.Order α} {handle : ControllerHandle}
    {s : Session} {events : List (Event ν)} {out : Except Failure α × Session}
    (hs : s.Reachable) (h : Runs (o.run handle) s events out) :
    (s.state = .disconnected → out.2.state = .disconnected ∧ out.2.handle = none ∧
      o.CleansUp handle s events (failure? out.1)) ∧
    (s.state ≠ .disconnected → events = [] ∧ out.2 = s ∧
      failure? out.1 = some ((o.checks.findSome? id).getD
        (.wrongState "logon" "Disconnected" s.state.name))) := by
  constructor
  · intro hstate
    have hhandle := hs.handle_eq_none hstate
    cases hchecks : o.checks.findSome? id with
    | none =>
        obtain ⟨heq, hconducts⟩ := Workflow.Order.conducts_of_runs hstate hhandle hchecks h
        rw [heq]
        exact ⟨hstate, hhandle, hconducts.cleansUp hchecks⟩
    | some e =>
        obtain ⟨rfl, rfl⟩ := Workflow.Order.refused_of_runs h (.inl (by rw [hchecks]; rfl))
        refine ⟨hstate, hhandle, by simp, by simp, by simp, by simp, [], [], rfl, ?_, by simp⟩
        rw [hchecks]
        exact .checks_failed hchecks
  · intro hstate
    obtain ⟨rfl, rfl⟩ := Workflow.Order.refused_of_runs h (.inr hstate)
    exact ⟨rfl, rfl, rfl⟩

/-- A release that fails is the failure of a workflow whose work succeeds, and the session is closed
all the same. -/
theorem workflow_cleanup_release_fails :
    ∃ (events : List (Event Empty)) (out : Except Failure Unit × Session),
      Runs ((Workflow.Order.setPointer "Cell" 3).run Simulator.handle) {} events out ∧
      failure? out.1 = some (.refused .releaseTimedOut) ∧ out.2.state = .disconnected ∧
      out.2.handle = none ∧ ∃ before b, events = before ++ [Event.call .logoff b] := by
  have hnew : Reachable {} := ⟨Unit, .done (.ok ()), {}, "T_ROB1", [], .ok (), .done _⟩
  have hrun : Runs ((Workflow.Order.setPointer "Cell" 3).run Simulator.handle) {}
      ([.call (.logon Simulator.handle {}) (.ok ()), .call .requestMastership (.ok ()),
        .call (.setProgramPointer "T_ROB1" "Cell" 3) (.ok ()),
        .call .releaseMastership (.error (.refused .releaseTimedOut)),
        .call .logoff (.ok ())] : List (Event Empty))
      (.error (.refused .releaseTimedOut), {}) :=
    Dialogue.path_run (Simulator.respond {}) _
      ({ modules := [⟨"Cell", []⟩], failNextRelease := true } : Simulator)
  obtain ⟨hstate, hhandle, hclean⟩ := (workflow_cleanup hnew hrun).1 rfl
  obtain ⟨before, b, hevents, _⟩ := hclean.loggedOff Simulator.handle {} (by simp)
  exact ⟨_, _, hrun, rfl, hstate, hhandle, before, b, hevents⟩

end RobotCell
