import RobotCell.Proofs.Session.Step

/-!
# RobotCell.Proofs.Workflow.Plan

Plans of operations.

A plan is the list of the steps that an operation goes through, local checks and calls, each with
the answers that it does not put up with.  `Performs` goes through a plan up to its first failing
step, which tells the events and the failure.  An operation that `Follows` a plan leaves its session
as it is; the plan of a sequence is that of its first part and then that of the second
(`follows_bind`).
-/

namespace RobotCell

/-! ## Steps -/

/-- A step of a plan. -/
inductive PlanStep where
  /-- Something that is known without a call. -/
  | check (fault? : Option Failure)
  /-- A call, and what is wrong with an answer that succeeds. -/
  | call (c : Call) (fault? : c.Answer → Option Failure)

/-- A call with which nothing is wrong when it succeeds. -/
def PlanStep.plain (c : Call) : PlanStep := .call c fun _ => none

/-- The calls of a step may be made in a state. -/
def PlanStep.AllowedIn (state : SessionState) : PlanStep → Prop
  | .check _ => True
  | .call c _ => c.AllowedIn state

/-- A step finds something wrong by itself. -/
def PlanStep.Rejects (e : Failure) : PlanStep → Prop
  | .check fault? => fault? = some e
  | .call _ fault? => ∃ answer, fault? answer = some e

/-- The call of a step, when it makes one. -/
def PlanStep.call? : PlanStep → Option Call
  | .check _ => none
  | .call c _ => some c

/-- The calls of a plan, in their order. -/
def plannedCalls (steps : List PlanStep) : List Call := steps.filterMap PlanStep.call?

@[simp] theorem plannedCalls_nil : plannedCalls [] = [] := rfl

@[simp] theorem plannedCalls_check {fault? : Option Failure} {rest : List PlanStep} :
    plannedCalls (.check fault? :: rest) = plannedCalls rest := rfl

@[simp] theorem plannedCalls_call {c : Call} {fault? : c.Answer → Option Failure}
    {rest : List PlanStep} : plannedCalls (.call c fault? :: rest) = c :: plannedCalls rest := rfl

@[simp] theorem plannedCalls_plain {c : Call} {rest : List PlanStep} :
    plannedCalls (.plain c :: rest) = c :: plannedCalls rest := rfl

@[simp] theorem plannedCalls_append {first rest : List PlanStep} :
    plannedCalls (first ++ rest) = plannedCalls first ++ plannedCalls rest :=
  List.filterMap_append

/-- The call that an event is, whatever it answers. -/
def Event.call? {ν : Type} : Event ν → Option Call
  | .call c _ => some c
  | .remark _ => none

/-- The calls that were made, in their order. -/
def madeCalls {ν : Type} (events : List (Event ν)) : List Call := events.filterMap Event.call?

@[simp] theorem madeCalls_nil {ν : Type} : madeCalls ([] : List (Event ν)) = [] := rfl

@[simp] theorem madeCalls_call {ν : Type} {c : Call} {answer : Except Failure c.Answer}
    {rest : List (Event ν)} : madeCalls (.call c answer :: rest) = c :: madeCalls rest := rfl

@[simp] theorem madeCalls_append {ν : Type} {first rest : List (Event ν)} :
    madeCalls (first ++ rest) = madeCalls first ++ madeCalls rest :=
  List.filterMap_append

/-- The calls that were made are those of the events. -/
theorem mem_madeCalls_iff {ν : Type} {events : List (Event ν)} {c : Call} :
    c ∈ madeCalls events ↔ ∃ answer, Event.call c answer ∈ events := by
  constructor
  · intro h
    obtain ⟨e, he, hcall⟩ := List.mem_filterMap.mp h
    cases e with
    | remark r => cases hcall
    | call c' answer =>
        cases hcall
        exact ⟨answer, he⟩
  · rintro ⟨answer, h⟩
    exact List.mem_filterMap.mpr ⟨_, h, rfl⟩

/-- The events of going through a plan, and the failure of the first step that fails. -/
inductive Performs {ν : Type} : List PlanStep → List (Event ν) → Option Failure → Prop where
  | done : Performs [] [] none
  | blocked {rest : List PlanStep} (e : Failure) : Performs (.check (some e) :: rest) [] (some e)
  | passed {rest : List PlanStep} {events : List (Event ν)} {failure : Option Failure}
      (h : Performs rest events failure) : Performs (.check none :: rest) events failure
  | refused {c : Call} {fault? : c.Answer → Option Failure} {rest : List PlanStep} (e : Failure) :
      Performs (.call c fault? :: rest) [.call c (.error e)] (some e)
  | rejected {c : Call} {fault? : c.Answer → Option Failure} {rest : List PlanStep}
      {answer : c.Answer} {e : Failure} (h : fault? answer = some e) :
      Performs (.call c fault? :: rest) [.call c (.ok answer)] (some e)
  | accepted {c : Call} {fault? : c.Answer → Option Failure} {rest : List PlanStep}
      {answer : c.Answer} {events : List (Event ν)} {failure : Option Failure}
      (h : fault? answer = none) (hrest : Performs rest events failure) :
      Performs (.call c fault? :: rest) (.call c (.ok answer) :: events) failure

namespace Performs

variable {ν : Type} {first rest : List PlanStep} {events more : List (Event ν)}
  {failure : Option Failure}

/-- A plan that was gone through goes on with what follows it. -/
theorem append (h : Performs first events none) (hrest : Performs rest more failure) :
    Performs (first ++ rest) (events ++ more) failure := by
  generalize hnone : (none : Option Failure) = outcome at h
  induction h with
  | done => exact hrest
  | blocked | refused | rejected => contradiction
  | passed _ ih => exact .passed (ih hnone)
  | accepted hanswer _ ih => exact .accepted hanswer (ih hnone)

/-- A plan that has failed does not go on. -/
theorem append_of_failed {e : Failure} (h : Performs first events (some e)) :
    Performs (first ++ rest) events (some e) := by
  generalize hsome : some e = outcome at h ⊢
  induction h with
  | done => contradiction
  | blocked e => exact .blocked e
  | passed _ ih => exact .passed (ih hsome)
  | refused e => exact .refused e
  | rejected hanswer => exact .rejected hanswer
  | accepted hanswer _ ih => exact .accepted hanswer (ih hsome)

/-- A plan in two parts fails in the first, or goes through it and on with the second. -/
theorem of_append (h : Performs (first ++ rest) events failure) :
    (∃ e, failure = some e ∧ Performs first events (some e)) ∨
      ∃ before after, events = before ++ after ∧ Performs first before none ∧
        Performs rest after failure := by
  induction first generalizing events with
  | nil => exact .inr ⟨[], events, rfl, .done, h⟩
  | cons step first ih =>
      rw [List.cons_append] at h
      cases h with
      | blocked e => exact .inl ⟨e, rfl, .blocked e⟩
      | passed h =>
          rcases ih h with ⟨e, rfl, hfirst⟩ | ⟨before, after, rfl, hfirst, hrest⟩
          · exact .inl ⟨e, rfl, .passed hfirst⟩
          · exact .inr ⟨before, after, rfl, .passed hfirst, hrest⟩
      | refused e => exact .inl ⟨e, rfl, .refused e⟩
      | rejected hanswer => exact .inl ⟨_, rfl, .rejected hanswer⟩
      | accepted hanswer h =>
          rcases ih h with ⟨e, rfl, hfirst⟩ | ⟨before, after, rfl, hfirst, hrest⟩
          · exact .inl ⟨e, rfl, .accepted hanswer hfirst⟩
          · exact .inr ⟨_ :: before, after, rfl, .accepted hanswer hfirst, hrest⟩

/-- The calls of a plan are made in their order, up to the step that fails. -/
theorem calls_prefix {steps : List PlanStep} (h : Performs steps events failure) :
    madeCalls events <+: plannedCalls steps := by
  induction h with
  | done | blocked => exact List.nil_prefix
  | passed _ ih => exact ih
  | refused | rejected => exact List.cons_prefix_cons.mpr ⟨rfl, List.nil_prefix⟩
  | accepted _ _ ih => exact List.cons_prefix_cons.mpr ⟨rfl, ih⟩

/-- A plan that was gone through has made all its calls. -/
theorem calls_eq {steps : List PlanStep} (h : Performs steps events none) :
    madeCalls events = plannedCalls steps := by
  generalize hnone : (none : Option Failure) = outcome at h
  induction h with
  | done => rfl
  | blocked | refused | rejected => contradiction
  | passed _ ih => exact ih hnone
  | @accepted c _ _ _ _ _ _ _ ih => exact congrArg (c :: ·) (ih hnone)

/-- A plan is not gone through past a check that fails. -/
theorem blocked_prefix {e : Failure}
    (h : Performs (first ++ .check (some e) :: rest) events failure) :
    madeCalls events <+: plannedCalls first ∧ failure ≠ none := by
  rcases h.of_append with ⟨e', rfl, hfirst⟩ | ⟨before, after, rfl, hfirst, hrest⟩
  · exact ⟨hfirst.calls_prefix, by simp⟩
  · cases hrest
    rw [List.append_nil]
    exact ⟨hfirst.calls_prefix, by simp⟩

/-- Only calls of the plan are made. -/
theorem exists_call {steps : List PlanStep} (h : Performs steps events failure) {e : Event ν}
    (he : e ∈ events) :
    ∃ c fault? answer, e = .call c answer ∧ PlanStep.call c fault? ∈ steps := by
  induction h with
  | done | blocked => contradiction
  | passed _ ih =>
      obtain ⟨c, fault?, answer, heq, hmem⟩ := ih he
      exact ⟨c, fault?, answer, heq, List.mem_cons_of_mem _ hmem⟩
  | refused | rejected => exact ⟨_, _, _, List.mem_singleton.mp he, List.mem_cons_self⟩
  | accepted _ _ ih =>
      rcases List.mem_cons.mp he with heq | he
      · exact ⟨_, _, _, heq, List.mem_cons_self⟩
      · obtain ⟨c, fault?, answer, heq, hmem⟩ := ih he
        exact ⟨c, fault?, answer, heq, List.mem_cons_of_mem _ hmem⟩

/-- A failure is that of a call, or what a step finds wrong by itself. -/
theorem exists_source {e : Failure} (h : Performs steps events (some e)) :
    (∃ c, Event.call c (.error e) ∈ events) ∨ ∃ step ∈ steps, step.Rejects e := by
  generalize hsome : some e = outcome at h
  induction h with
  | done => contradiction
  | blocked e' =>
      cases hsome
      exact .inr ⟨_, List.mem_cons_self, rfl⟩
  | passed _ ih =>
      rcases ih hsome with hcall | ⟨step, hmem, hrejects⟩
      · exact .inl hcall
      · exact .inr ⟨step, List.mem_cons_of_mem _ hmem, hrejects⟩
  | @refused c _ _ e' =>
      cases hsome
      exact .inl ⟨c, List.mem_cons_self⟩
  | rejected hanswer =>
      cases hsome
      exact .inr ⟨_, List.mem_cons_self, _, hanswer⟩
  | accepted _ _ ih =>
      rcases ih hsome with ⟨c, hmem⟩ | ⟨step, hmem, hrejects⟩
      · exact .inl ⟨c, List.mem_cons_of_mem _ hmem⟩
      · exact .inr ⟨step, List.mem_cons_of_mem _ hmem, hrejects⟩

/-- A check that fails comes before everything else. -/
theorem checks_failed {checks : List (Option Failure)} {e : Failure}
    (h : checks.findSome? id = some e) :
    Performs (checks.map .check ++ rest) ([] : List (Event ν)) (some e) := by
  induction checks with
  | nil => contradiction
  | cons check checks ih =>
      cases check with
      | none => exact .passed (ih h)
      | some e' =>
          cases h
          exact .blocked e

/-- Checks that pass leave the rest of the plan. -/
theorem checks_passed {checks : List (Option Failure)} (h : checks.findSome? id = none)
    (hrest : Performs rest events failure) :
    Performs (checks.map .check ++ rest) events failure := by
  induction checks with
  | nil => exact hrest
  | cons check checks ih =>
      cases check with
      | none => exact .passed (ih h)
      | some e => contradiction

end Performs

/-! ## Operations -/

namespace Session

variable {ν α β : Type} {s : Session} {first rest steps : List PlanStep} {c : Call}

/-- An operation goes through a plan, and leaves the session as it is. -/
def Follows (x : SessionM (Dialogue ν) α) (s : Session) (steps : List PlanStep) : Prop :=
  ∀ events out, Runs x s events out → out.2 = s ∧ Performs steps events (failure? out.1)

/-- A value takes no steps. -/
theorem follows_pure {a : α} : Follows (pure a : SessionM (Dialogue ν) α) s [] := by
  intro events out h
  obtain ⟨rfl, rfl⟩ := runs_pure_iff.mp h
  exact ⟨rfl, .done⟩

/-- A refusal is a check that fails. -/
theorem follows_refuse {e : Failure} :
    Follows (refuse e : SessionM (Dialogue ν) α) s [.check (some e)] := by
  intro events out h
  obtain ⟨rfl, rfl⟩ := runs_refuse_iff.mp h
  exact ⟨rfl, .blocked e⟩

/-- A call that is passed on is one step. -/
theorem follows_conduct : Follows (conduct c : SessionM (Dialogue ν) c.Answer) s [.plain c] := by
  intro events out h
  obtain ⟨rfl, hs⟩ := runs_conduct_iff.mp h
  refine ⟨hs, ?_⟩
  cases out.1 with
  | error e => exact .refused e
  | ok answer => exact .accepted rfl .done

/-- What follows a call has the plan that the answer leaves, or refuses the answer. -/
theorem follows_conduct_bind {f : c.Answer → SessionM (Dialogue ν) α}
    {fault? : c.Answer → Option Failure} (hbad : ∀ a e, fault? a = some e → f a = refuse e)
    (hgood : ∀ a, fault? a = none → Follows (f a) s rest) :
    Follows (conduct c >>= f) s (.call c fault? :: rest) := by
  intro events out h
  rcases runs_bind_iff.mp h with ⟨e, s₁, hcall, rfl⟩ | ⟨_, answer, s₁, more, rfl, hcall, hf⟩
  · obtain ⟨rfl, hs⟩ := runs_conduct_iff.mp hcall
    exact ⟨hs, .refused e⟩
  · obtain ⟨rfl, rfl⟩ := runs_conduct_iff.mp hcall
    cases hanswer : fault? answer with
    | none =>
        obtain ⟨hs, hperforms⟩ := hgood answer hanswer _ _ hf
        exact ⟨hs, .accepted hanswer hperforms⟩
    | some e =>
        rw [hbad answer e hanswer] at hf
        obtain ⟨rfl, rfl⟩ := runs_refuse_iff.mp hf
        exact ⟨rfl, .rejected hanswer⟩

/-- A sequence goes through the plan of its first part and then that of the second. -/
theorem follows_bind {x : SessionM (Dialogue ν) β} {f : β → SessionM (Dialogue ν) α}
    (hx : Follows x s first) (hf : ∀ b, (∃ events, Runs x s events (.ok b, s)) →
      Follows (f b) s rest) : Follows (x >>= f) s (first ++ rest) := by
  intro events out h
  rcases runs_bind_iff.mp h with ⟨e, s₁, hrun, rfl⟩ | ⟨before, b, s₁, after, rfl, hrun, hrest⟩
  · obtain ⟨hs, hperforms⟩ := hx _ _ hrun
    exact ⟨hs, hperforms.append_of_failed⟩
  · obtain ⟨rfl, hfirst⟩ := hx _ _ hrun
    obtain ⟨hs, hperforms⟩ := hf b ⟨before, hrun⟩ _ _ hrest
    exact ⟨hs, hfirst.append hperforms⟩

theorem follows_get_bind {f : Session → SessionM (Dialogue ν) α} (h : Follows (f s) s steps) :
    Follows (get >>= f) s steps :=
  fun events out hrun => h events out (runs_get_bind_iff.mp hrun)

/-- An operation in its state goes through the plan of its body. -/
theorem follows_inState {operation : String} {body : SessionM (Dialogue ν) α}
    (h : Follows body s steps) : Follows (inState operation s.state body) s steps := by
  intro events out hrun
  rcases runs_inState_iff.mp hrun with ⟨_, hbody⟩ | ⟨hstate, _⟩
  · exact h _ _ hbody
  · contradiction

/-- With a logon, an operation that needs one is its body. -/
theorem connected_apply {operation : String} {body : SessionM (Dialogue ν) α}
    (hs : s.state ≠ .disconnected) : connected operation body s = body s := by
  unfold connected
  split
  · contradiction
  · rfl

/-- With a connection an operation goes by the plan of its body. -/
theorem follows_connected {operation : String} {body : SessionM (Dialogue ν) α}
    (hs : s.state ≠ .disconnected) (h : Follows body s steps) :
    Follows (connected operation body) s steps := by
  intro events out hrun
  rw [Runs, connected_apply hs] at hrun
  exact h events out hrun

theorem follows_connected_bind {operation : String} {body : SessionM (Dialogue ν) β}
    {f : β → SessionM (Dialogue ν) α} (hs : s.state ≠ .disconnected)
    (h : Follows (body >>= f) s steps) : Follows (connected operation body >>= f) s steps := by
  have hbody : (connected operation body >>= f) s = (body >>= f) s := by
    show connected operation body s >>= _ = body s >>= _
    rw [connected_apply hs]
  intro events out hrun
  rw [Runs, hbody] at hrun
  exact h events out hrun

end Session

end RobotCell
