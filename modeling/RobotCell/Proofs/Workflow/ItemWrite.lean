import RobotCell.Proofs.Controller.Value
import RobotCell.Proofs.Workflow.Cleanup

/-!
# RobotCell.Proofs.Workflow.ItemWrite

The targets that reach the controller.

An item is written by a value, by a text of any kind or, in a workflow of its own, by the text of a
Cartesian target.  All three go through a plan (`ItemWrite.plan`) that writes one text, the literal
of the value, and that rejects no value for what it holds.  A text that cannot be read is refused
before anything is called, but the checks of poses stand in no plan: the writes of a run are safe
exactly when the value that was given passes, or nothing is written (`item_write_outcome`).
-/

namespace RobotCell

open Session

/-! ## Written texts -/

/-- The text that a call writes to an item. -/
def Call.text? : Call → Option String
  | .setData _ _ _ text => some text
  | _ => none

def Event.text? {ν : Type} : Event ν → Option String
  | .call c _ => c.text?
  | .remark _ => none

/-- The texts that are written to items, in their order. -/
def writtenTexts {ν : Type} (events : List (Event ν)) : List String := events.filterMap Event.text?

/-- Every target that is written passes its check. -/
def SafeWrites {ν : Type} (events : List (Event ν)) : Prop :=
  ∀ text ∈ writtenTexts events, SafeText text

theorem writtenTexts_append {ν : Type} (first rest : List (Event ν)) :
    writtenTexts (first ++ rest) = writtenTexts first ++ writtenTexts rest :=
  List.filterMap_append

theorem writtenTexts_eq_filterMap {ν : Type} (events : List (Event ν)) :
    writtenTexts events = (madeCalls events).filterMap Call.text? := by
  rw [madeCalls, List.filterMap_filterMap, writtenTexts]
  congr 1
  funext e
  cases e <;> rfl

/-! ## Plans -/

/-- The texts of a plan, in their order. -/
def plannedTexts (steps : List PlanStep) : List String := (plannedCalls steps).filterMap Call.text?

namespace Performs

variable {ν : Type} {steps : List PlanStep} {events : List (Event ν)} {failure : Option Failure}

/-- The texts of a plan are written in their order, up to the step that fails. -/
theorem writtenTexts_prefix (h : Performs steps events failure) :
    writtenTexts events <+: plannedTexts steps := by
  rw [writtenTexts_eq_filterMap]
  exact h.calls_prefix.filterMap _

/-- A plan that was gone through has written all its texts. -/
theorem writtenTexts_eq (h : Performs steps events none) :
    writtenTexts events = plannedTexts steps := by
  rw [writtenTexts_eq_filterMap, h.calls_eq, plannedTexts]

end Performs

/-- A run that is refused for the state of its session, or one that goes through a plan and writes
nothing on its way back. -/
inductive Attempts {ν : Type} (steps : List PlanStep) :
    List (Event ν) → Except Failure Unit → Prop where
  | refused {e : Failure} (h : e.kind = .session) : Attempts steps [] (.error e)
  | performed {main back : List (Event ν)} {result : Except Failure Unit}
      (h : Performs steps main (failure? result)) (hback : writtenTexts back = []) :
      Attempts steps (main ++ back) result

namespace Attempts

variable {ν : Type} {steps : List PlanStep} {events : List (Event ν)}
  {result : Except Failure Unit}

theorem writtenTexts_prefix (h : Attempts steps events result) :
    writtenTexts events <+: plannedTexts steps := by
  cases h with
  | refused => exact List.nil_prefix
  | performed h hback =>
      rw [writtenTexts_append, hback, List.append_nil]
      exact h.writtenTexts_prefix

theorem writtenTexts_eq (h : Attempts steps events (.ok ())) :
    writtenTexts events = plannedTexts steps := by
  cases h with
  | performed h hback =>
      rw [writtenTexts_append, hback, List.append_nil]
      exact h.writtenTexts_eq

theorem exists_source {e : Failure} (h : Attempts steps events (.error e)) :
    e.kind = .session ∨ (∃ c, Event.call c (.error e) ∈ events) ∨
      ∃ step ∈ steps, step.Rejects e := by
  cases h with
  | refused hkind => exact .inl hkind
  | performed h hback =>
      rcases h.exists_source with ⟨c, hcall⟩ | hrejects
      · exact .inr (.inl ⟨c, List.mem_append_left _ hcall⟩)
      · exact .inr (.inr hrejects)

end Attempts

/-! ## Operations -/

/-- An operation that writes an item, with what it is given. -/
inductive ItemWrite where
  | ofValue (module name : String) (v : DataValue)
  | ofText (module name text : String)
  | sendTarget (handle : ControllerHandle) (module name text : String)

namespace ItemWrite

variable {ν : Type} {w : ItemWrite} {v : DataValue} {s : Session} {events : List (Event ν)}
  {out : Except Failure Unit × Session}

/-- The operation. -/
def run {m : Type → Type} [Monad m] [Transport m] : ItemWrite → SessionM m Unit
  | .ofValue module name v => writeValue module name v
  | .ofText module name text => writeText module name text
  | .sendTarget handle module name text => Workflow.sendTarget handle module name text

/-- The value that is to be written. -/
def given : ItemWrite → Except Failure DataValue
  | .ofValue _ _ v => .ok v
  | .ofText _ _ text => DataValue.parse text
  | .sendTarget _ _ _ text => (Pose.parse text).map .robtarget

/-- The steps of the operation, once it has the value. -/
def plan (s : Session) (v : DataValue) : ItemWrite → List PlanStep
  | .ofValue module name _ | .ofText module name _ => PlanStep.write s.task module name v
  | .sendTarget handle module name text => (Workflow.Order.sendTarget module name text).steps handle s

/-- A text that cannot be read is refused before anything is called. -/
theorem refused_of_given {e : Failure} (hgiven : w.given = .error e) (h : Runs w.run s events out) :
    e.kind = .validation ∧ events = [] ∧ out = (.error e, s) := by
  cases w with
  | ofValue => cases hgiven
  | ofText module name text =>
      have hparse : DataValue.parse text = .error e := hgiven
      simp only [run, writeText, hparse] at h
      exact ⟨DataValue.kind_of_parse hparse, runs_refuse_iff.mp h⟩
  | sendTarget handle module name text =>
      have hparse : Pose.parse text = .error e := error_of_map hgiven
      simp only [run, Workflow.sendTarget, hparse] at h
      exact ⟨Pose.kind_of_parse hparse, runs_refuse_iff.mp h⟩

/-- The steps to a Cartesian target that could be read. -/
theorem plan_sendTarget {handle : ControllerHandle} {module name text : String} {p : Pose}
    (hparse : Pose.parse text = .ok p) :
    (sendTarget handle module name text).plan s v =
      [.check none, .plain (.logon handle s.user), .plain .requestMastership, .auto] ++
        (PlanStep.write s.task module name (.robtarget p) ++
          (PlanStep.start s.task ++ [.plain .releaseMastership])) := by
  simp [plan, Workflow.Order.steps, Workflow.Order.checks, Workflow.Order.mutates,
    Workflow.Order.work, hparse, failure?]

theorem parse_of_given {handle : ControllerHandle} {module name text : String}
    (hgiven : (sendTarget handle module name text).given = .ok v) :
    ∃ p, Pose.parse text = .ok p ∧ v = .robtarget p := by
  cases hparse : Pose.parse text with
  | error e => simp [given, hparse, Except.map] at hgiven
  | ok p => exact ⟨p, rfl, by simpa [given, hparse, Except.map, eq_comm] using hgiven⟩

/-- The one text of the plan is the literal of the value. -/
theorem texts_plan (hgiven : w.given = .ok v) :
    plannedTexts (w.plan s v) = [v.literal] := by
  cases w with
  | ofValue | ofText => rfl
  | sendTarget handle module name text =>
      obtain ⟨p, hparse, rfl⟩ := parse_of_given hgiven
      rw [plan_sendTarget hparse]
      rfl

/-- What the plan finds wrong has nothing to do with what the value holds. -/
theorem kind_of_rejects_plan (hgiven : w.given = .ok v) {step : PlanStep} {e : Failure}
    (hstep : step ∈ w.plan s v) (h : step.Rejects e) : e.kind ≠ .validation := by
  have hwrite {module name : String} (hstep : step ∈ PlanStep.write s.task module name v) :
      e.kind ≠ .validation := by
    rw [PlanStep.kind_of_rejects_write hstep h]
    decide
  cases w with
  | ofValue | ofText => exact hwrite hstep
  | sendTarget handle module name text =>
      obtain ⟨p, hparse, rfl⟩ := parse_of_given hgiven
      rw [plan_sendTarget hparse] at hstep
      rcases List.mem_append.mp hstep with hbefore | hstep
      · simp only [List.mem_cons, List.not_mem_nil, or_false] at hbefore
        rcases hbefore with rfl | rfl | rfl | rfl
        · cases h
        · exact absurd h PlanStep.not_rejects_plain
        · exact absurd h PlanStep.not_rejects_plain
        · rw [PlanStep.kind_of_rejects_auto h]
          decide
      rcases List.mem_append.mp hstep with hstep | hstep
      · exact hwrite hstep
      rcases List.mem_append.mp hstep with hstep | hstep
      · rw [PlanStep.kind_of_rejects_start hstep h]
        decide
      · obtain rfl := List.mem_singleton.mp hstep
        exact absurd h PlanStep.not_rejects_plain

theorem attempts_writeValue {module name : String}
    (h : Runs (writeValue module name v) s events out) :
    Attempts (PlanStep.write s.task module name v) events out.1 := by
  by_cases hstate : s.state = .mastershipHeld
  · rw [← List.append_nil events]
    exact .performed (follows_writeValue hstate _ _ h).2 rfl
  · rcases runs_inState_iff.mp h with ⟨hheld, _⟩ | ⟨_, rfl, rfl⟩
    · contradiction
    · exact .refused rfl

theorem attempts_sendTarget {handle : ControllerHandle} {module name text : String} {p : Pose}
    (hparse : Pose.parse text = .ok p)
    (h : Runs (Workflow.sendTarget handle module name text) s events out) :
    Attempts ((Workflow.Order.sendTarget module name text).steps handle s) events out.1 := by
  let o : Workflow.Order Unit := .sendTarget module name text
  have hrun : Runs (o.run handle) s events out := h
  have hchecks : o.checks.findSome? id = none := by
    simp [o, Workflow.Order.checks, hparse, failure?]
  by_cases hstate : s.state = .disconnected
  · obtain ⟨-, hconducts⟩ := Workflow.Order.conducts_of_disconnected hstate hchecks hrun
    obtain ⟨main, back, rfl, hperforms, hback⟩ := hconducts.first_failure hchecks
    refine .performed hperforms (List.filterMap_eq_nil_iff.mpr fun e he => ?_)
    rcases hback e he with ⟨answer, rfl⟩ | ⟨answer, rfl⟩
    · rfl
    · rfl
  · obtain ⟨rfl, rfl⟩ := Workflow.Order.refused_of_runs hrun (.inr hstate)
    rw [hchecks]
    exact .refused rfl

/-- An operation that has its value attempts its plan. -/
theorem attempts_plan (hgiven : w.given = .ok v) (h : Runs w.run s events out) :
    Attempts (w.plan s v) events out.1 := by
  cases w with
  | ofValue module name v' =>
      cases hgiven
      exact attempts_writeValue h
  | ofText module name text =>
      have hparse : DataValue.parse text = .ok v := hgiven
      simp only [run, writeText, hparse] at h
      exact attempts_writeValue h
  | sendTarget handle module name text =>
      obtain ⟨p, hparse, -⟩ := parse_of_given hgiven
      exact attempts_sendTarget hparse h

end ItemWrite

/-! ## The result -/

/-- What a run that is given a value does with it. -/
structure WritesAsGiven {ν : Type} (v : DataValue) (events : List (Event ν))
    (result : Except Failure Unit) : Prop where
  /-- Nothing but the literal of the value is written, at most once. -/
  texts : writtenTexts events = [] ∨ writtenTexts events = [v.literal]
  /-- A run that succeeds has written it. -/
  written : result = .ok () → writtenTexts events = [v.literal]
  /-- No value is refused for what it holds: malformed input can only be the answer of a call. -/
  unchecked : ∀ e, result = .error e → e.kind = .validation → ∃ c, .call c (.error e) ∈ events
  /-- What is written is safe exactly when the value passes as it is written, or nothing is. -/
  safe_iff : SafeWrites events ↔ v.asWritten.validate = .ok () ∨ writtenTexts events = []
  /-- A value that passes as it is given is safe. -/
  safe : v.validate = .ok () → SafeWrites events

/-- **Targets are written as they are given**: a text that cannot be read is refused before anything
is called, and every other value is written without a check of what it holds. -/
theorem item_write_outcome {ν : Type} {w : ItemWrite} {s : Session} {events : List (Event ν)}
    {out : Except Failure Unit × Session} (h : Runs w.run s events out) :
    (∀ e, w.given = .error e → e.kind = .validation ∧ events = [] ∧ out = (.error e, s)) ∧
    ∀ v, w.given = .ok v → WritesAsGiven v events out.1 := by
  refine ⟨fun e hgiven => ItemWrite.refused_of_given hgiven h, fun v hgiven => ?_⟩
  have hattempts := ItemWrite.attempts_plan hgiven h
  have htexts : writtenTexts events = [] ∨ writtenTexts events = [v.literal] := by
    have hprefix := hattempts.writtenTexts_prefix
    rw [ItemWrite.texts_plan hgiven] at hprefix
    rcases List.prefix_cons_iff.mp hprefix with hnil | ⟨rest, hone, hrest⟩
    · exact .inl hnil
    · obtain rfl := List.prefix_nil.mp hrest
      exact .inr hone
  have hsafe : SafeWrites events ↔ v.asWritten.validate = .ok () ∨ writtenTexts events = [] := by
    rw [← safeText_literal_iff]
    rcases htexts with hnone | hone
    · simp [SafeWrites, hnone]
    · simp [SafeWrites, hone]
  refine ⟨htexts, fun hok => ?_, fun e he hkind => ?_, hsafe,
    fun hv => hsafe.mpr (.inl (DataValue.validate_asWritten hv))⟩
  · rw [hok] at hattempts
    exact hattempts.writtenTexts_eq.trans (ItemWrite.texts_plan hgiven)
  · rw [he] at hattempts
    rcases hattempts.exists_source with hsession | hcall | ⟨step, hstep, hrejects⟩
    · rw [hkind] at hsession
      cases hsession
    · exact hcall
    · exact absurd hkind (ItemWrite.kind_of_rejects_plan hgiven hstep hrejects)

/-- A text that is no literal is refused, and a valid target is written safely. -/
theorem item_write_outcome_origin :
    (∃ e, (ItemWrite.ofText "M" "p" "]").given = .error e ∧ e.kind = .validation) ∧
    ∃ (s : Session) (events : List (Event Empty)),
      Runs (ItemWrite.run (.ofValue "M" "p" (.robtarget originFrame))) s events (.ok (), s) ∧
        writtenTexts events = [originFrame.literal] ∧ SafeWrites events := by
  constructor
  · let e : Failure := .invalidLiteral "]" (.unreadable (.badScalar "") 0)
    have hgiven : (ItemWrite.ofText "M" "p" "]").given = .error e := rfl
    have hruns : Runs (ItemWrite.run (.ofText "M" "p" "]")) {} ([] : List (Event Empty))
        (.error e, {}) := .done _
    exact ⟨e, hgiven, ((item_write_outcome hruns).1 e hgiven).1⟩
  · let held : Session := { state := .mastershipHeld, handle := some Simulator.handle }
    let item : DataItem := ⟨"M", "p", "robtarget", ""⟩
    let events : List (Event Empty) := [.call (.getData "T_ROB1" "M" "p") (.ok (some item)),
      .call (.setData "T_ROB1" "M" "p" originFrame.literal) (.ok ())]
    have hruns : Runs (ItemWrite.run (.ofValue "M" "p" (.robtarget originFrame))) held events
        (.ok (), held) := .ask _ (.ask _ (.done _))
    have hvalid : originFrame.validate = .ok () := Pose.validate_eq_ok_iff.mpr
      ⟨by decide +kernel, by decide +kernel, by decide +kernel, rfl⟩
    have hwrites := (item_write_outcome hruns).2 (.robtarget originFrame) rfl
    exact ⟨held, events, hruns, hwrites.written rfl, hwrites.safe hvalid⟩

/-- A target that is not a number is sent to the robot, and started. -/
theorem not_a_number_is_sent :
    ∃ events : List (Event Empty),
      Runs (ItemWrite.run (.sendTarget Simulator.handle "M" "p"
        "[[NaN,0,0],[1,0,0,0],[0,0,0,0],[9E+09,9E+09,9E+09,9E+09,9E+09,9E+09]]"))
        {} events (.ok (), {}) ∧
      Event.call .start (.ok ()) ∈ events ∧ ¬SafeWrites events := by
  -- the text shows a pose whose own literal is the text again, so that is what is written
  let pose : Pose := ⟨#v[.nan, 0, 0], #v[1, 0, 0, 0], {}, .unused⟩
  have hliteral : pose.literal =
    "[[NaN,0,0],[1,0,0,0],[0,0,0,0],[9E+09,9E+09,9E+09,9E+09,9E+09,9E+09]]" := by decide +kernel
  have hread : pose.asWritten = pose := by decide +kernel
  have hparse : Pose.parse pose.literal = .ok pose := pose.parse_literal.trans (by rw [hread])
  let item : DataItem := ⟨"M", "p", "robtarget", ""⟩
  rw [← hliteral]
  refine ⟨[.call (.logon Simulator.handle {}) (.ok ()), .call .requestMastership (.ok ()),
    .call .operatingMode (.ok .auto), .call (.getData "T_ROB1" "M" "p") (.ok (some item)),
    .call (.setData "T_ROB1" "M" "p" pose.literal) (.ok ()), .call .operatingMode (.ok .auto),
    .call (.resetProgramPointer "T_ROB1") (.ok ()), .call .start (.ok ()),
    .call .releaseMastership (.ok ()), .call .logoff (.ok ())], ?_, by simp, ?_⟩
  · simp only [ItemWrite.run, Workflow.sendTarget, hparse]
    exact .ask _ (.ask _ (.ask _ (.ask _ (.ask _ (.ask _ (.ask _ (.ask _ (.ask _ (.ask _
      (.done _))))))))))
  · intro hsafe
    have hpose : pose.asWritten.validate = .ok () :=
      (@safeText_literal_iff (.robtarget pose)).mp (hsafe pose.literal List.mem_cons_self)
    rw [hread] at hpose
    have hfinite := (Pose.validate_eq_ok_iff.mp hpose).1 .nan (by simp [pose])
    cases hfinite

end RobotCell
