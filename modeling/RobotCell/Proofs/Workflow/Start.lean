import RobotCell.Proofs.Files
import RobotCell.Proofs.Workflow.Cleanup

/-!
# RobotCell.Proofs.Workflow.Start

Starting is gated on automatic mode.

The mode is read twice with remote work between, and every call may fail or answer anything.  What a
plan can start, it starts by its last three steps (`StartsLast`), which are gone through in one of
four ways (`Performs.start_cases`); so every start comes right behind a reset of the pointer, and
that right behind the answer that the mode is automatic.  The workflows that start a program ask for
the mode before all their work as well, in the same scope (`Performs.writes_auto`).
-/

namespace RobotCell

open Session

variable {ν α : Type} {s : Session} {events : List (Event ν)} {failure : Option Failure}
  {task : String} {steps rest : List PlanStep}

/-! ## Gates -/

/-- Every start comes right after a reset of the program pointer, and that right after the answer
that the mode is automatic. -/
def StartsGated (task : String) (events : List (Event ν)) : Prop :=
  Throughout (fun before e => e.call? = some .start → ∃ earlier, before = earlier ++
    [.call .operatingMode (.ok .auto), .call (.resetProgramPointer task) (.ok ())]) events

namespace StartsGated

theorem of_not_mem (h : .start ∉ madeCalls events) : StartsGated task events :=
  .of_forall fun e he _ hstart => absurd (List.mem_filterMap.mpr ⟨e, he, hstart⟩) h

theorem append {first rest : List (Event ν)} (h : StartsGated task first)
    (hrest : StartsGated task rest) : StartsGated task (first ++ rest) := by
  refine throughout_append_iff.mpr ⟨h, hrest.imp fun before e hgate hstart => ?_⟩
  obtain ⟨earlier, rfl⟩ := hgate hstart
  exact ⟨first ++ earlier, (List.append_assoc ..).symm⟩

theorem between {opening middle closing : List (Event ν)} (hopen : .start ∉ madeCalls opening)
    (h : StartsGated task middle) (hclose : .start ∉ madeCalls closing) :
    StartsGated task (opening ++ (middle ++ closing)) :=
  (of_not_mem hopen).append (h.append (of_not_mem hclose))

end StartsGated

/-- Automatic mode has been answered in the scope of mastership that is open. -/
def AutoInScope (before : List (Event ν)) : Prop :=
  ∃ earlier later, before = earlier ++ Event.call .requestMastership (.ok ()) :: later ∧
    .call .operatingMode (.ok .auto) ∈ later ∧ ∀ c ∈ madeCalls later, c.isScope = false

theorem AutoInScope.append {before : List (Event ν)} (h : AutoInScope before)
    (first : List (Event ν)) : AutoInScope (first ++ before) := by
  obtain ⟨earlier, later, rfl, hauto, hscope⟩ := h
  exact ⟨first ++ earlier, later, (List.append_assoc ..).symm, hauto, hscope⟩

/-! ## Plans that start -/

namespace Performs

/-- Only automatic mode lets a plan go on. -/
theorem auto_cases (h : Performs (.auto :: rest) events failure) :
    (∃ e, events = [.call .operatingMode (.error e)]) ∨
    (∃ mode, mode ≠ .auto ∧ events = [.call .operatingMode (.ok mode)] ∧
      failure = some (.wrongMode mode)) ∨
    ∃ more, events = .call .operatingMode (.ok .auto) :: more ∧ Performs rest more failure := by
  cases h with
  | refused e => exact .inl ⟨e, rfl⟩
  | @rejected _ _ _ mode e hmode =>
      by_cases hauto : mode = .auto
      · simp [hauto] at hmode
      · obtain rfl : Failure.wrongMode mode = e := by simpa [hauto] using hmode
        exact .inr (.inl ⟨mode, hauto, rfl, rfl⟩)
  | @accepted _ _ _ mode more _ hmode hrest =>
      by_cases hauto : mode = .auto
      · exact .inr (.inr ⟨more, by rw [hauto], hrest⟩)
      · simp [hauto] at hmode

theorem plain_cases {c : Call} (h : Performs (.plain c :: rest) events failure) :
    (∃ e, events = [.call c (.error e)]) ∨
    ∃ answer more, events = .call c (.ok answer) :: more ∧ Performs rest more failure := by
  cases h with
  | refused e => exact .inl ⟨e, rfl⟩
  | rejected h => cases h
  | accepted _ hrest => exact .inr ⟨_, _, rfl, hrest⟩

/-- A start goes one of four ways: the mode is not answered, it is the wrong one, the pointer is not
reset, or the call to start is made. -/
theorem start_cases (h : Performs (PlanStep.start task) events failure) :
    (∃ e, events = [.call .operatingMode (.error e)]) ∨
    (∃ mode, mode ≠ .auto ∧ events = [.call .operatingMode (.ok mode)] ∧
      failure = some (.wrongMode mode)) ∨
    (∃ e, events = [.call .operatingMode (.ok .auto),
      .call (.resetProgramPointer task) (.error e)]) ∨
    ∃ answer, events = [.call .operatingMode (.ok .auto),
      .call (.resetProgramPointer task) (.ok ()), .call .start answer] := by
  rcases h.auto_cases with hfailed | hwrong | ⟨more, rfl, hreset⟩
  · exact .inl hfailed
  · exact .inr (.inl hwrong)
  rcases hreset.plain_cases with ⟨e, rfl⟩ | ⟨_, more, rfl, hstart⟩
  · exact .inr (.inr (.inl ⟨e, rfl⟩))
  rcases hstart.plain_cases with ⟨e, rfl⟩ | ⟨_, more, rfl, hend⟩
  · exact .inr (.inr (.inr ⟨.error e, rfl⟩))
  · cases hend
    exact .inr (.inr (.inr ⟨.ok (), rfl⟩))

/-- A plan makes no calls that are not planned. -/
theorem not_mem_madeCalls (h : Performs steps events failure) {c : Call}
    (hc : c ∉ plannedCalls steps) : c ∉ madeCalls events :=
  fun hmade => hc (h.calls_prefix.subset hmade)

theorem startsGated_start (h : Performs (PlanStep.start task) events failure) :
    StartsGated task events := by
  rcases h.start_cases with ⟨e, rfl⟩ | ⟨mode, _, rfl, _⟩ | ⟨e, rfl⟩ | ⟨answer, rfl⟩
  · exact .of_not_mem (by simp)
  · exact .of_not_mem (by simp)
  · exact .of_not_mem (by simp)
  · have hbefore : StartsGated task ([.call .operatingMode (.ok .auto),
        .call (.resetProgramPointer task) (.ok ())] : List (Event ν)) :=
      .of_not_mem (by simp)
    exact throughout_concat_iff.mpr ⟨hbefore, fun _ => ⟨[], rfl⟩⟩

end Performs

/-- A plan that starts nothing, unless by its last steps. -/
def StartsLast (task : String) (steps : List PlanStep) : Prop :=
  ∃ ahead last, steps = ahead ++ last ∧ .start ∉ plannedCalls ahead ∧
    (last = [] ∨ last = PlanStep.start task)

namespace StartsLast

theorem of_not_mem (h : .start ∉ plannedCalls steps) : StartsLast task steps :=
  ⟨steps, [], (List.append_nil _).symm, h, .inl rfl⟩

/-- Such a plan is gated, wherever it fails. -/
theorem gated (h : StartsLast task steps) (hperforms : Performs steps events failure) :
    StartsGated task events := by
  obtain ⟨ahead, last, rfl, hahead, hlast⟩ := h
  rcases hperforms.of_append with ⟨e, rfl, hfirst⟩ | ⟨before, after, rfl, hfirst, hrest⟩
  · exact .of_not_mem (hfirst.not_mem_madeCalls hahead)
  · refine .append (.of_not_mem (hfirst.not_mem_madeCalls hahead)) ?_
    rcases hlast with rfl | rfl
    · cases hrest
      exact throughout_nil
    · exact hrest.startsGated_start

end StartsLast

/-! ## Scripts -/

/-- Operations start nothing, unless by their last steps. -/
theorem Operation.startsLast (o : Operation α) (s : Session) : StartsLast s.task (o.plan s) := by
  cases o with
  | startExecution => exact ⟨[_], PlanStep.start s.task, rfl, by simp, .inr rfl⟩
  | writeText module name text =>
      refine .of_not_mem ?_
      simp only [Operation.plan]
      split <;> simp
  | _ => exact .of_not_mem (by simp [Operation.plan])

theorem SessionStep.task_eq {s s' : Session} {events : List (Event Remark)}
    (h : SessionStep s events s') : s'.task = s.task := by
  cases h <;> rfl

/-- What only opens and closes scopes starts nothing. -/
theorem not_mem_madeCalls_of_isWork (h : events.all (!·.isWork) = true) :
    .start ∉ madeCalls events := by
  intro hstart
  obtain ⟨answer, he⟩ := mem_madeCalls_iff.mp hstart
  have hquiet := List.all_eq_true.mp h _ he
  cases hquiet

/-- A session keeps its task, and every start in a run of it is gated. -/
theorem scriptLaw_gated :
    ScriptLaw fun s events s' => s'.task = s.task ∧ StartsGated s.task events where
  nil _ := ⟨rfl, throughout_nil⟩
  append h hrest := ⟨hrest.1.trans h.1, h.2.append (h.1 ▸ hrest.2)⟩
  operation o hrun := by
    obtain ⟨hsame, hperforms⟩ := o.follows _ _ _ hrun
    exact ⟨congrArg Session.task hsame, (o.startsLast _).gated hperforms⟩
  scope hstep hquiet := ⟨hstep.task_eq, .of_not_mem (not_mem_madeCalls_of_isWork hquiet)⟩

/-! ## Workflows that start -/

namespace Performs

/-- What a plan that asks for the mode first writes, it writes after the answer and in the scope
that the plan is gone through in. -/
theorem writes_auto (h : Performs (.auto :: rest) events failure)
    (hscope : ∀ c ∈ madeCalls events, c.isScope = false) :
    Throughout (fun before e => e.isWrite = true →
      AutoInScope (Event.call .requestMastership (.ok ()) :: before)) events := by
  rcases h.auto_cases with ⟨e, rfl⟩ | ⟨mode, _, rfl, _⟩ | ⟨more, rfl, _⟩
  · exact .of_forall (by simp [Event.isWrite, Call.isWrite])
  · exact .of_forall (by simp [Event.isWrite, Call.isWrite])
  · intro before e after hsplit hwrite
    cases before with
    | nil =>
        obtain ⟨rfl, -⟩ := List.cons.inj hsplit
        cases hwrite
    | cons first before =>
        obtain ⟨rfl, -⟩ := List.cons.inj hsplit
        refine ⟨[], _, rfl, List.mem_cons_self, fun c hc => hscope c ?_⟩
        rw [hsplit, madeCalls_append]
        exact List.mem_append_left _ hc

/-- A plan that asks for the mode first and again before it starts is refused for every other mode
that is answered, and starts nothing then. -/
theorem refused_of_mode {ahead : List PlanStep}
    (h : Performs (.auto :: (ahead ++ PlanStep.start task)) events failure)
    (hstart : .start ∉ plannedCalls ahead) (hask : .operatingMode ∉ plannedCalls ahead)
    {mode : OperatingMode} (hmode : mode ≠ .auto)
    (hanswered : .call .operatingMode (.ok mode) ∈ events) :
    failure = some (.wrongMode mode) ∧ .start ∉ madeCalls events := by
  rcases h.auto_cases with ⟨e, rfl⟩ | ⟨mode', _, rfl, rfl⟩ | ⟨more, rfl, hmore⟩
  · simp at hanswered
  · obtain rfl : mode = mode' := by simpa using hanswered
    exact ⟨rfl, by simp⟩
  -- the first question was answered well, so the mode answers the one that belongs to the start
  have hagain : .call .operatingMode (.ok mode) ∈ more := by simpa [hmode] using hanswered
  have hahead {before : List (Event ν)} {failed : Option Failure}
      (hbefore : Performs ahead before failed) : .call .operatingMode (.ok mode) ∉ before :=
    fun he => hbefore.not_mem_madeCalls hask (mem_madeCalls_iff.mpr ⟨_, he⟩)
  rcases hmore.of_append with ⟨e, rfl, hfirst⟩ | ⟨before, after, rfl, hfirst, hlast⟩
  · exact absurd hagain (hahead hfirst)
  have hafter := (List.mem_append.mp hagain).resolve_left (hahead hfirst)
  have hbefore := hfirst.not_mem_madeCalls hstart
  rcases hlast.start_cases with ⟨e, rfl⟩ | ⟨mode', _, rfl, rfl⟩ | ⟨e, rfl⟩ | ⟨answer, rfl⟩
  · simp at hafter
  · obtain rfl : mode = mode' := by simpa using hafter
    refine ⟨rfl, ?_⟩
    simp only [madeCalls, List.filterMap_cons, List.filterMap_append] at hbefore ⊢
    simpa [Event.call?] using hbefore
  · simp [hmode] at hafter
  · simp [hmode] at hafter

end Performs

/-- What a workflow keeps to that starts a program. -/
structure StartsSafely (events : List (Event ν)) (result : Except Failure α) : Prop where
  /-- Nothing is written before automatic mode has been answered in the same scope. -/
  writes : Throughout (fun before e => e.isWrite = true → AutoInScope before) events
  /-- Any other mode that is answered is the failure, and then nothing is started. -/
  wrongMode : ∀ mode, mode ≠ .auto → .call .operatingMode (.ok mode) ∈ events →
    result = .error (.wrongMode mode) ∧ .start ∉ madeCalls events

namespace Workflow.Order

/-- The workflows that start a program. -/
def starts : Order α → Bool
  | .sendProgram .. | .sendTarget .. => true
  | _ => false

variable {o : Order α} {handle : ControllerHandle} {out : Except Failure α × Session}

/-- They ask for the mode, do what neither starts anything nor asks again, and start. -/
theorem work_of_starts (hstarts : o.starts = true) (hchecks : o.checks.findSome? id = none)
    (task : String) : ∃ ahead, o.work task = .auto :: (ahead ++ PlanStep.start task) ∧
      .start ∉ plannedCalls ahead ∧ .operatingMode ∉ plannedCalls ahead := by
  cases o with
  | sendProgram files p =>
      exact ⟨_ ++ _, congrArg _ (List.append_assoc ..).symm, by simp, by simp⟩
  | sendTarget module name text =>
      cases hparse : Pose.parse text with
      | error e => simp [checks, hparse, failure?] at hchecks
      | ok pose =>
          refine ⟨PlanStep.write task module name (.robtarget pose), ?_, by simp, by simp⟩
          simp only [work, hparse]
  | _ => cases hstarts

theorem startsLast_work (o : Order α) (hchecks : o.checks.findSome? id = none) (task : String) :
    StartsLast task (o.work task) := by
  cases hstarts : o.starts with
  | true =>
      obtain ⟨ahead, hwork, hahead, -⟩ := work_of_starts hstarts hchecks task
      exact ⟨.auto :: ahead, PlanStep.start task, hwork, by simpa using hahead, .inr rfl⟩
  | false =>
      refine .of_not_mem ?_
      cases o <;> simp_all [starts, work]

/-- Every start of a workflow is gated. -/
theorem Conducts.startsGated (hchecks : o.checks.findSome? id = none)
    (h : Conducts o handle s events failure) : StartsGated s.task events := by
  have hwork := o.startsLast_work hchecks s.task
  cases h with
  | logonFails | requestFails => exact .of_not_mem (by simp)
  | @read middle _ _ hperforms b =>
      show StartsGated s.task ([_] ++ (middle ++ [_]))
      exact .between (by simp) (hwork.gated hperforms) (by simp)
  | @write middle _ _ hperforms a b =>
      show StartsGated s.task ([_, _] ++ (middle ++ [_, _]))
      exact .between (by simp) (hwork.gated hperforms) (by simp)

/-- A workflow that starts a program asks for the mode in time, and heeds the answers. -/
theorem Conducts.startsSafely (hstarts : o.starts = true) (hchecks : o.checks.findSome? id = none)
    {result : Except Failure α} (h : Conducts o handle s events (failure? result)) :
    StartsSafely events result := by
  obtain ⟨ahead, hwork, hstart, hask⟩ := work_of_starts hstarts hchecks s.task
  generalize hresult : failure? result = failure at h
  cases h with
  | logonFails => exact ⟨.of_forall (by simp [Event.isWrite, Call.isWrite]), by simp⟩
  | requestFails => exact ⟨.of_forall (by simp [Event.isWrite, Call.isWrite]), by simp⟩
  | read hread =>
      cases o <;> simp_all [starts, mutates]
  | @write middle failure _ hperforms a b =>
      have hscope : ∀ c ∈ madeCalls middle, c.isScope = false := by
        intro c hc
        obtain ⟨answer, he⟩ := mem_madeCalls_iff.mp hc
        obtain ⟨c', answer', heq, hallowed⟩ := allowed_of_performs hperforms he
        cases heq
        exact hallowed.isScope_eq
      rw [hwork] at hperforms
      -- the scope opens right before the work, so what precedes a write in the work is in the scope
      refine ⟨?_, fun mode hmode hanswered => ?_⟩
      · have hwrites : Throughout (fun before e => e.isWrite = true →
            AutoInScope ([Event.call (.logon handle s.user) (.ok ()),
              .call .requestMastership (.ok ())] ++ before)) middle :=
          (hperforms.writes_auto hscope).imp fun before e h hwrite => (h hwrite).append [_]
        show Throughout _ ([_, _] ++ (middle ++ [_, _]))
        exact throughout_append_iff.mpr ⟨.of_forall (by simp [Event.isWrite, Call.isWrite]),
          throughout_append_iff.mpr ⟨hwrites, .of_forall (by simp [Event.isWrite, Call.isWrite])⟩⟩
      · have hmiddle : .call .operatingMode (.ok mode) ∈ middle := by simpa using hanswered
        obtain ⟨rfl, hnone⟩ := hperforms.refused_of_mode hstart hask hmode hmiddle
        refine ⟨?_, by simpa using hnone⟩
        cases result with
        | error e => exact congrArg _ (Option.some.inj hresult)
        | ok _ => cases hresult

/-- A workflow is refused without a call, or passes its checks and goes one of its ways. -/
theorem refused_or_conducts (h : Runs (o.run handle) s events out) :
    (events = [] ∧ ∃ e, out.1 = .error e) ∨
      o.checks.findSome? id = none ∧ Conducts o handle s events (failure? out.1) := by
  by_cases hs : s.state = .disconnected
  · cases hchecks : o.checks.findSome? id with
    | none => exact .inr ⟨rfl, (conducts_of_disconnected hs hchecks h).2⟩
    | some e =>
        obtain ⟨rfl, rfl⟩ := refused_of_runs h (.inl (by rw [hchecks]; rfl))
        exact .inl ⟨rfl, _, rfl⟩
  · obtain ⟨rfl, rfl⟩ := refused_of_runs h (.inr hs)
    exact .inl ⟨rfl, _, rfl⟩

/-- Every start in a run of a workflow is gated. -/
theorem startsGated_of_runs (h : Runs (o.run handle) s events out) :
    StartsGated s.task events := by
  rcases refused_or_conducts h with ⟨rfl, -⟩ | ⟨hchecks, hconducts⟩
  · exact throughout_nil
  · exact hconducts.startsGated hchecks

theorem startsSafely_of_runs (hstarts : o.starts = true) (h : Runs (o.run handle) s events out) :
    StartsSafely events out.1 := by
  rcases refused_or_conducts h with ⟨rfl, -⟩ | ⟨hchecks, hconducts⟩
  · exact ⟨throughout_nil, by simp⟩
  · exact hconducts.startsSafely hstarts hchecks

end Workflow.Order

/-! ## Deployments -/

/-- The calls of a deployment with mastership, in their order, up to a file whose path has no
name. -/
def deployCalls (task : String) (p : ProgramFiles) : List Call :=
  .operatingMode ::
    match fileName? p.program with
    | none => []
    | some program =>
      .putFile p.program program true :: .loadProgram task program .replace ::
        match fileName? p.module with
        | none => []
        | some module =>
          [.putFile p.module module true, .loadModule task module .add, .operatingMode,
            .resetProgramPointer task, .start]

/-- The calls of a deployment are made in their order up to the first that fails, and then only
those that give back what it holds; one that succeeds has made them all. -/
def DeploysInOrder (handle : ControllerHandle) (s : Session) (p : ProgramFiles)
    (events : List (Event ν)) (result : Except Failure Unit) : Prop :=
  ∃ main back, events = main ++ back ∧
    madeCalls main <+: .logon handle s.user :: .requestMastership :: deployCalls s.task p ∧
    (∀ c ∈ madeCalls back, c = .releaseMastership ∨ c = .logoff) ∧
    (result = .ok () →
      madeCalls main = .logon handle s.user :: .requestMastership :: deployCalls s.task p ∧
      .start ∈ madeCalls main)

/-- The work of a deployment makes its calls in their order. -/
theorem Performs.deployCalls_prefix {files : Files} {p : ProgramFiles}
    (h : Performs ((Workflow.Order.sendProgram files p).work task) events failure) :
    madeCalls events <+: deployCalls task p ∧ (failure = none →
      madeCalls events = deployCalls task p ∧ .start ∈ deployCalls task p) := by
  unfold deployCalls
  cases hprogram : fileName? p.program with
  | none =>
      have hwork : ∃ rest, (Workflow.Order.sendProgram files p).work task =
          [.auto] ++ .check (some (.fileNotFound p.program)) :: rest := by
        simp [Workflow.Order.work, PlanStep.upload, PlanStep.store, hprogram]
      obtain ⟨rest, hwork⟩ := hwork
      rw [hwork] at h
      exact ⟨h.blocked_prefix.1, fun hnone => absurd hnone h.blocked_prefix.2⟩
  | some program =>
      cases hmodule : fileName? p.module with
      | none =>
          have hwork : ∃ rest, (Workflow.Order.sendProgram files p).work task =
              [.auto, .plain (.putFile p.program program true),
                .plain (.loadProgram task program .replace)] ++
                .check (some (.fileNotFound p.module)) :: rest := by
            simp [Workflow.Order.work, PlanStep.upload, PlanStep.store, hprogram, hmodule]
          obtain ⟨rest, hwork⟩ := hwork
          rw [hwork] at h
          exact ⟨h.blocked_prefix.1, fun hnone => absurd hnone h.blocked_prefix.2⟩
      | some module =>
          have hcalls : plannedCalls ((Workflow.Order.sendProgram files p).work task) =
              [.operatingMode, .putFile p.program program true, .loadProgram task program .replace,
                .putFile p.module module true, .loadModule task module .add, .operatingMode,
                .resetProgramPointer task, .start] := by
            simp [Workflow.Order.work, hprogram, hmodule]
          rw [← hcalls]
          refine ⟨h.calls_prefix, fun hnone => ?_⟩
          subst hnone
          exact ⟨h.calls_eq, by simp [hcalls]⟩

theorem deploysInOrder_of_runs {files : Files} {handle : ControllerHandle} {p : ProgramFiles}
    {out : Except Failure Unit × Session}
    (h : Runs (Workflow.sendProgram files handle p) s events out) :
    DeploysInOrder handle s p events out.1 := by
  let o : Workflow.Order Unit := .sendProgram files p
  have hrun : Runs (o.run handle) s events out := h
  rcases Workflow.Order.refused_or_conducts hrun with ⟨rfl, e, he⟩ | ⟨-, hconducts⟩
  · exact ⟨[], [], rfl, List.nil_prefix, by simp, fun hok => by cases he.symm.trans hok⟩
  generalize hfailure : failure? out.1 = failed at hconducts
  cases hconducts with
  | logonFails e =>
      refine ⟨[_], [], rfl, ?_, by simp, fun hok => ?_⟩
      · exact List.cons_prefix_cons.mpr ⟨rfl, List.nil_prefix⟩
      · rw [hok] at hfailure
        cases hfailure
  | read hread => cases hread
  | requestFails _ e b =>
      refine ⟨[_, _], [.call .logoff b], rfl, ?_, by simp, fun hok => ?_⟩
      · exact List.cons_prefix_cons.mpr ⟨rfl, List.cons_prefix_cons.mpr ⟨rfl, List.nil_prefix⟩⟩
      · rw [hok] at hfailure
        cases hfailure
  | @write middle failure _ hperforms a b =>
      obtain ⟨hmade, hall⟩ := hperforms.deployCalls_prefix
      refine ⟨_ :: _ :: middle, [.call .releaseMastership a, .call .logoff b], rfl, ?_, by simp,
        fun hok => ?_⟩
      · exact List.cons_prefix_cons.mpr ⟨rfl, List.cons_prefix_cons.mpr ⟨rfl, hmade⟩⟩
      · rw [hok] at hfailure
        have hnone : failure = none := by
          cases failure with
          | none => rfl
          | some e => cases hfailure
        obtain ⟨hcalls, hstart⟩ := hall hnone
        rw [madeCalls_call, madeCalls_call, hcalls]
        exact ⟨rfl, by simp [hstart]⟩

/-! ## The result -/

/-- **Starting is gated on automatic mode**, whatever the calls answer and however often the mode
changes.  In every run of every script and of every workflow, a start comes right after a reset of
the program pointer that succeeded, and that right after the answer that the mode is automatic.  The
workflows that start a program write nothing before that answer in the same scope, and fail with any
other mode that is answered, starting nothing; and a deployment makes its calls in their order. -/
theorem start_gated :
    (∀ {α : Type} (p : Script α) {s : Session} {events : List (Event Remark)}
      {out : Except Failure α × Session}, Runs p.run s events out → StartsGated s.task events) ∧
    (∀ {ν α : Type} (o : Workflow.Order α) {handle : ControllerHandle} {s : Session}
      {events : List (Event ν)} {out : Except Failure α × Session},
      Runs (o.run handle) s events out →
        StartsGated s.task events ∧ (o.starts = true → StartsSafely events out.1)) ∧
    ∀ {ν : Type} {files : Files} {handle : ControllerHandle} {p : ProgramFiles} {s : Session}
      {events : List (Event ν)} {out : Except Failure Unit × Session},
      Runs (Workflow.sendProgram files handle p) s events out →
        DeploysInOrder handle s p events out.1 :=
  ⟨fun p _ _ _ h => (p.run_law scriptLaw_gated h).2,
    fun _ _ _ _ _ h => ⟨Workflow.Order.startsGated_of_runs h, fun hstarts =>
      Workflow.Order.startsSafely_of_runs hstarts h⟩,
    fun h => deploysInOrder_of_runs h⟩

/-- A script starts in automatic mode; a deployment finds the mode changed once its files are
loaded, and starts nothing. -/
theorem start_gated_mode_changes :
    (∃ events out, Runs (Script.logon Simulator.handle fun _ =>
        .withMastership (.perform .startExecution .done) .done).run {} events out ∧
      .call .start (.ok ()) ∈ events ∧ StartsGated "T_ROB1" events) ∧
    ∃ (files : Files) (p : ProgramFiles) (events : List (Event Empty)),
      Runs (Workflow.sendProgram files Simulator.handle p) {} events
        (.error (.wrongMode .manual), {}) ∧
      .call .operatingMode (.ok .auto) ∈ events ∧ .call .operatingMode (.ok .manual) ∈ events ∧
      .start ∉ madeCalls events ∧
      DeploysInOrder Simulator.handle {} p events (.error (.wrongMode .manual)) := by
  constructor
  · have hrun : Runs (Script.logon Simulator.handle fun _ =>
        .withMastership (.perform .startExecution .done) .done).run {} [
          .call (.logon Simulator.handle {}) (.ok ()),
          .remark (.control { state := .loggedOn, handle := some Simulator.handle }),
          .call .requestMastership (.ok ()),
          .remark (.control { state := .mastershipHeld, handle := some Simulator.handle }),
          .call .operatingMode (.ok .auto), .call (.resetProgramPointer "T_ROB1") (.ok ()),
          .call .start (.ok ()),
          .remark (.control { state := .mastershipHeld, handle := some Simulator.handle }),
          .remark (.leaving { state := .mastershipHeld, handle := some Simulator.handle }),
          .call .releaseMastership (.ok ()),
          .remark (.control { state := .loggedOn, handle := some Simulator.handle })]
        (.ok (), { state := .loggedOn, handle := some Simulator.handle }) :=
      .ask _ (.tell (.ask _ (.tell (.ask _ (.ask _ (.ask _ (.tell (.tell (.ask _ (.tell
        (.done _)))))))))))
    exact ⟨_, _, hrun, by simp, start_gated.1 _ hrun⟩
  · let files : Files := { nodes := [(["p"], .text "")] }
    have hsteps : pathSteps "p" = [] ++ ["p"] := by
      unfold pathSteps String.splitOn
      rw [String.splitOnAux, String.splitOnAux]
      rfl
    have hname : fileName? "p" = some "p" :=
      Files.fileName?_of_steps hsteps (by decide) (by decide)
    have hrequire : files.require "p" = .ok () := by
      have hpath : Files.isPath "p" = true := by decide +kernel
      have hstart : files.start "p" = [] := Files.start_of_root rfl "p"
      simp only [Files.require, Files.resolve, Files.resolveFrom, hstart, hpath, hsteps]
      rfl
    have hrun : Runs (Workflow.sendProgram files Simulator.handle ⟨"p", "p"⟩) {} ([
        .call (.logon Simulator.handle {}) (.ok ()), .call .requestMastership (.ok ()),
        .call .operatingMode (.ok .auto), .call (.putFile "p" "p" true) (.ok ()),
        .call (.loadProgram "T_ROB1" "p" .replace) (.ok ()), .call (.putFile "p" "p" true) (.ok ()),
        .call (.loadModule "T_ROB1" "p" .add) (.ok ()), .call .operatingMode (.ok .manual),
        .call .releaseMastership (.ok ()), .call .logoff (.ok ())] : List (Event Empty))
        (.error (.wrongMode .manual), {}) := by
      simp only [Workflow.sendProgram, uploadProgram, uploadModule, transfer, hrequire, hname]
      exact .ask _ (.ask _ (.ask _ (.ask _ (.ask _ (.ask _ (.ask _ (.ask _ (.ask _ (.ask _
        (.done _))))))))))
    have hsafe := (start_gated.2.1 (.sendProgram files ⟨"p", "p"⟩) hrun).2 rfl
    exact ⟨files, ⟨"p", "p"⟩, _, hrun, by simp, by simp,
      (hsafe.wrongMode .manual (by decide) (by simp)).2, start_gated.2.2 hrun⟩

end RobotCell
