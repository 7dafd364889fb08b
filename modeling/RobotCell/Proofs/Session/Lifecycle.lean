import RobotCell.Proofs.Session.History
import RobotCell.Proofs.Session.Step

/-!
# RobotCell.Proofs.Session.Lifecycle

When a session is disconnected.

A session has a handle exactly while it is connected, and after a logoff it is disconnected until a
logon succeeds.  Both laws hold throughout a run just when no scope is left on a disconnected
session: a scope releases mastership and puts its session into `loggedOn` whatever its body did, so
that after a body that has logged off the session is connected to nothing.

* `Orderly.step`: every other step keeps both laws;
* `Telling.step`: where state and handle agree, no scope was left like that;
* `Operation.refuses`: a disconnected session refuses every operation.
-/

namespace RobotCell

/-! ## The laws -/

namespace Event

/-- The client is in control. -/
def isControl : Event Remark → Bool
  | .remark (.control _) => true
  | _ => false

/-- A logon that succeeded. -/
def isLogon : Event Remark → Bool
  | .call (.logon _ _) (.ok _) => true
  | _ => false

/-- A logoff: the call, or the return of the operation. -/
def isLogoff : Event Remark → Bool
  | .call .logoff _ | .remark .loggedOff => true
  | _ => false

end Event

theorem Call.AllowedIn.isLogoff_eq {c : Call} {state : SessionState} (h : c.AllowedIn state)
    (answer : Except Failure c.Answer) : (Event.call c answer).isLogoff = false := by
  cases c <;> simp_all [Call.AllowedIn, Call.isRead, Call.isWrite, Event.isLogoff]

/-- A session has a handle exactly when it is connected. -/
def Session.Agrees (s : Session) : Prop := s.state = .disconnected ↔ s.handle = none

/-- A session stays in agreement when it goes from one connected state to another. -/
theorem Session.Agrees.of_connected {s : Session} {state : SessionState} (h : s.Agrees)
    (hbefore : s.state ≠ .disconnected) (hafter : state ≠ .disconnected) :
    ({ s with state } : Session).Agrees := by
  have hhandle : s.handle ≠ none := fun hnone => hbefore (h.mpr hnone)
  simp [Session.Agrees, hafter, hhandle]

/-- Whenever the client is in control, state and handle agree. -/
def AgreesThroughout (events : List (Event Remark)) : Prop :=
  ∀ s, .remark (.control s) ∈ events → s.Agrees

/-- After a logoff, and until a logon succeeds, the client finds the session disconnected. -/
def StaysOff (events : List (Event Remark)) : Prop :=
  Throughout (fun before e => ∀ s, e = .remark (.control s) →
    Since (·.isLogoff) (·.isLogon) before → s.state = .disconnected) events

/-- No scope is left on a disconnected session. -/
def LeavesConnected (events : List (Event Remark)) : Prop :=
  ∀ s, .remark (.leaving s) ∈ events → s.state ≠ .disconnected

/-! ## What steps keep -/

/-- While no scope is left on a disconnected session, both laws hold, and the session is as they
say. -/
structure Orderly (history : List (Event Remark)) (s : Session) : Prop where
  agreed : AgreesThroughout history
  stayedOff : StaysOff history
  agrees : s.Agrees
  off : Since (·.isLogoff) (·.isLogon) history → s.state = .disconnected

namespace Orderly

variable {history events : List (Event Remark)} {e : Event Remark} {s s' : Session}

theorem of_new {user : Credentials} {task : String} : Orderly [] { user, task } :=
  ⟨by simp [AgreesThroughout], throughout_nil, by simp [Session.Agrees],
    fun hsince => absurd hsince not_since_nil⟩

/-- An event at which the client is not in control keeps the order, when the session after it agrees
and is disconnected after a logoff, and stays so unless it is a logon. -/
theorem concat (h : Orderly history s) (he : e.isControl = false)
    (hagrees : s'.Agrees) (hlogoff : e.isLogoff = true → s'.state = .disconnected)
    (hstays : s.state = .disconnected → e.isLogon = false → s'.state = .disconnected) :
    Orderly (history ++ [e]) s' := by
  have hcontrol : ∀ s₁, e ≠ .remark (.control s₁) := by
    rintro s₁ rfl
    contradiction
  refine ⟨?_, ?_, hagrees, ?_⟩
  · intro s₁ hs₁
    rcases List.mem_append.mp hs₁ with hold | hnew
    · exact h.agreed s₁ hold
    · exact absurd (List.mem_singleton.mp hnew).symm (hcontrol s₁)
  · rw [StaysOff, throughout_concat_iff]
    exact ⟨h.stayedOff, fun s₁ heq => absurd heq (hcontrol s₁)⟩
  · rw [since_concat_iff]
    rintro (hoff | ⟨hsince, hlogon⟩)
    · exact hlogoff hoff
    · exact hstays (h.off hsince) (by simpa using hlogon)

/-- An event that leaves the session keeps the order unless it is a logoff. -/
theorem concat_same (h : Orderly history s) (he : e.isControl = false)
    (hlogoff : e.isLogoff = false) : Orderly (history ++ [e]) s :=
  h.concat he h.agrees (by simp [hlogoff]) fun hoff _ => hoff

/-- An event that ends the session keeps the order. -/
theorem concat_ended (h : Orderly history s) (he : e.isControl = false) :
    Orderly (history ++ [e]) s.ended :=
  h.concat he (by simp [Session.Agrees]) (fun _ => rfl) fun _ _ => rfl

/-- The client finds the session as the laws say. -/
theorem concat_control (h : Orderly history s) :
    Orderly (history ++ [Event.remark (Remark.control s)]) s := by
  refine ⟨?_, ?_, h.agrees, ?_⟩
  · intro s₁ hs₁
    rcases List.mem_append.mp hs₁ with hold | hnew
    · exact h.agreed s₁ hold
    · cases List.mem_singleton.mp hnew
      exact h.agrees
  · rw [StaysOff, throughout_concat_iff]
    refine ⟨h.stayedOff, fun s₁ heq hsince => ?_⟩
    cases heq
    exact h.off hsince
  · rw [since_concat_iff]
    rintro (hoff | ⟨hsince, -⟩)
    · contradiction
    · exact h.off hsince

/-- Every step keeps the order but the end of a scope on a disconnected session. -/
theorem step (h : Orderly history s) (hstep : SessionStep s events s')
    (hleave : LeavesConnected events) : Orderly (history ++ events) s' := by
  cases hstep with
  | control => exact h.concat_control
  | call c answer hallowed => exact h.concat_same rfl (hallowed.isLogoff_eq answer)
  | logonFails handle e hstate => exact h.concat_same rfl rfl
  | logon handle hstate =>
      exact h.concat rfl (by simp [Session.Agrees]) (by simp [Event.isLogoff])
        (by simp [Event.isLogon])
  | logoff a hstate => exact h.concat_ended rfl
  | logoffInScope a b hstate =>
      have hreleased : Orderly (history ++ [Event.call .releaseMastership a]) s :=
        h.concat_same rfl rfl
      have hended : Orderly (history ++ [Event.call .releaseMastership a] ++ [Event.call .logoff b])
          s.ended := hreleased.concat_ended rfl
      rwa [List.append_assoc] at hended
  | loggedOff hstate => exact h.concat rfl h.agrees (fun _ => hstate) fun _ _ => hstate
  | requestFails e hstate => exact h.concat_same rfl rfl
  | request hstate =>
      exact h.concat rfl (h.agrees.of_connected (by simp [hstate]) (by simp))
        (by simp [Event.isLogoff]) (by simp [hstate])
  | leave a =>
      have hconnected : s.state ≠ .disconnected := hleave s (by simp)
      have hleaving : Orderly (history ++ [Event.remark (Remark.leaving s)]) s :=
        h.concat_same rfl rfl
      have hreleased : Orderly (history ++ [Event.remark (Remark.leaving s)] ++
          [Event.call .releaseMastership a]) { s with state := .loggedOn } :=
        hleaving.concat rfl (h.agrees.of_connected hconnected (by simp)) (by simp [Event.isLogoff])
          fun hoff => absurd hoff hconnected
      have hcontrol := hreleased.concat_control
      rwa [List.append_assoc, List.append_assoc] at hcontrol

end Orderly

theorem agreesThroughout_append_iff {history events : List (Event Remark)} :
    AgreesThroughout (history ++ events) ↔ AgreesThroughout history ∧ AgreesThroughout events := by
  simp only [AgreesThroughout, List.mem_append, or_imp, forall_and]

theorem leavesConnected_append_iff {history events : List (Event Remark)} :
    LeavesConnected (history ++ events) ↔ LeavesConnected history ∧ LeavesConnected events := by
  simp only [LeavesConnected, List.mem_append, or_imp, forall_and]

/-- A disconnected session has no handle, whatever happened; and agreement tells that no scope was
left on a disconnected session. -/
structure Telling (history : List (Event Remark)) (s : Session) : Prop where
  handle_eq_none : s.state = .disconnected → s.handle = none
  tells : AgreesThroughout history → LeavesConnected history

namespace Telling

variable {history events : List (Event Remark)} {s s' : Session}

theorem of_new {user : Credentials} {task : String} : Telling [] { user, task } :=
  ⟨fun _ => rfl, fun _ => by simp [LeavesConnected]⟩

theorem of_no_leave (h : Telling history s) (hhandle : s'.state = .disconnected → s'.handle = none)
    (hevents : ∀ s, .remark (.leaving s) ∉ events) : Telling (history ++ events) s' := by
  refine ⟨hhandle, fun hagrees => ?_⟩
  rw [agreesThroughout_append_iff] at hagrees
  rw [leavesConnected_append_iff]
  exact ⟨h.tells hagrees.1, fun s hs => absurd hs (hevents s)⟩

theorem step (h : Telling history s) (hstep : SessionStep s events s') :
    Telling (history ++ events) s' := by
  cases hstep with
  | control | loggedOff | call | logonFails | requestFails =>
      exact h.of_no_leave h.handle_eq_none (by simp)
  | logon handle hstate => exact h.of_no_leave (by simp) (by simp)
  | logoff a hstate => exact h.of_no_leave (fun _ => rfl) (by simp)
  | logoffInScope a b hstate => exact h.of_no_leave (fun _ => rfl) (by simp)
  | request hstate => exact h.of_no_leave (by simp) (by simp)
  | leave a =>
      refine ⟨by simp, fun hagrees => ?_⟩
      rw [agreesThroughout_append_iff] at hagrees
      rw [leavesConnected_append_iff]
      refine ⟨h.tells hagrees.1, fun s₁ hs₁ hstate => ?_⟩
      obtain rfl : s₁ = s := by simpa using hs₁
      -- the client finds the session logged on, to nothing
      have hcontrol : ({ s₁ with state := .loggedOn } : Session).Agrees :=
        hagrees.2 _ (by simp)
      have hloggedOn : SessionState.loggedOn = .disconnected :=
        hcontrol.mpr (h.handle_eq_none hstate)
      contradiction

end Telling

/-- A session that a script has led to. -/
def Session.Reachable (s : Session) : Prop :=
  ∃ (α : Type) (p : Script α) (user : Credentials) (task : String) (events : List (Event Remark))
    (result : Except Failure α), Runs p.run { user, task } events (result, s)

theorem Session.Reachable.handle_eq_none {s : Session} (h : s.Reachable)
    (hs : s.state = .disconnected) : s.handle = none := by
  obtain ⟨α, p, user, task, events, result, hrun⟩ := h
  exact ((p.run_steps hrun).preserves Telling.step Telling.of_new).handle_eq_none hs

/-! ## Refusals -/

namespace Session

variable {s : Session} {events : List (Event Remark)} {files : Files} {path module name : String}

/-- A session that is disconnected refuses without a call: for what is wrong with the operation
itself, or else for its own state. -/
def Refuses {α : Type} (x : SessionM ScriptM α) (fault? : Option Failure) (s : Session) : Prop :=
  ∀ events out, Runs x s events out → events = [] ∧ ∃ operation required,
    out = (.error (fault?.getD (.wrongState operation required "Disconnected")), s)

theorem refuses_inState {α : Type} {operation : String} {wanted : SessionState}
    {body : SessionM ScriptM α} (hs : s.state = .disconnected) (hwanted : wanted ≠ .disconnected) :
    Refuses (inState operation wanted body) none s := by
  intro events out h
  rcases runs_inState_iff.mp h with ⟨hstate, _⟩ | ⟨_, rfl, rfl⟩
  · exact absurd (hstate.symm.trans hs) hwanted
  · exact ⟨rfl, operation, wanted.name, by rw [hs]; rfl⟩

theorem refuses_connected {α : Type} {operation : String} {body : SessionM ScriptM α}
    (hs : s.state = .disconnected) : Refuses (connected operation body) none s := by
  intro events out h
  rcases runs_connected_iff.mp h with ⟨hstate, _⟩ | ⟨_, rfl, rfl⟩
  · exact absurd hs hstate
  · exact ⟨rfl, operation, "LoggedOn", rfl⟩

/-- What a refused operation would go on with is not reached. -/
theorem Refuses.bind {α β : Type} {x : SessionM ScriptM β} {f : β → SessionM ScriptM α}
    {fault? : Option Failure} (h : Refuses x fault? s) : Refuses (x >>= f) fault? s := by
  intro events out hrun
  rcases runs_bind_iff.mp hrun with ⟨e, s₁, hx, rfl⟩ | ⟨first, b, s₁, rest, rfl, hx, hf⟩
  · obtain ⟨rfl, operation, required, heq⟩ := h _ _ hx
    cases heq
    exact ⟨rfl, operation, required, rfl⟩
  · obtain ⟨_, _, _, heq⟩ := h _ _ hx
    simp at heq

/-- The local file of a transfer comes before the state. -/
theorem refuses_transfer {operation : String} (hs : s.state = .disconnected) :
    Refuses (transfer files operation path) (failure? (files.require path)) s := by
  unfold transfer
  cases files.require path with
  | error e =>
      intro events out h
      obtain ⟨rfl, rfl⟩ := runs_refuse_iff.mp h
      exact ⟨rfl, operation, SessionState.mastershipHeld.name, rfl⟩
  | ok _ => exact refuses_inState hs (by decide)

/-- The text of a value comes before the state. -/
theorem refuses_writeText {text : String} (hs : s.state = .disconnected) :
    Refuses (writeText module name text) (failure? (DataValue.parse text)) s := by
  unfold writeText
  cases DataValue.parse text with
  | error e =>
      intro events out h
      obtain ⟨rfl, rfl⟩ := runs_refuse_iff.mp h
      exact ⟨rfl, "write named value", SessionState.mastershipHeld.name, rfl⟩
  | ok value => exact refuses_inState hs (by decide)

end Session

/-- Every operation is refused on a disconnected session. -/
theorem Operation.refuses {α : Type} {s : Session} (hs : s.state = .disconnected) :
    ∀ o : Operation α, Session.Refuses o.run o.fault? s
  | .uploadModule .. => (Session.refuses_transfer hs).bind
  | .uploadProgram .. => (Session.refuses_transfer hs).bind
  | .writeText .. => Session.refuses_writeText hs
  | .startExecution | .writeValue .. | .setProgramPointer .. =>
    Session.refuses_inState hs (by decide)
  | .operatingMode | .readValue .. | .searchData .. | .programPointer | .currentPosition
  | .subscribe => Session.refuses_connected hs

/-! ## The result -/

/-- **When a session is disconnected**: in every run of every script on a new session, whatever the
calls answer and however scopes nest, the state agrees with the handle and a logoff lasts until the
next logon exactly when no scope is left on a disconnected session.  A disconnected session refuses
every operation, and every scope, without a call. -/
theorem lifecycle_iff {α : Type} {p : Script α} {user : Credentials} {task : String}
    {events : List (Event Remark)} {out : Except Failure α × Session}
    (h : Session.Runs p.run { user, task } events out) :
    (AgreesThroughout events ∧ StaysOff events ↔ LeavesConnected events) ∧
      ∀ s : Session, s.state = .disconnected →
        (∀ (β : Type) (o : Operation β), Session.Refuses o.run o.fault? s) ∧
        ∀ (β : Type) (body : SessionM ScriptM β),
          Session.Refuses (Session.withMastership body) none s := by
  have hsteps := p.run_steps h
  refine ⟨⟨fun ⟨hagrees, _⟩ => ?_, fun hleaves => ?_⟩, fun s hs => ⟨fun _ o => ?_, fun _ _ => ?_⟩⟩
  · exact (hsteps.preserves Telling.step Telling.of_new).tells hagrees
  · have hend : LeavesConnected ([] ++ events) → Orderly ([] ++ events) out.2 := by
      refine hsteps.preserves (I := fun history s => LeavesConnected history → Orderly history s)
        (fun hI hstep hleft => ?_) (fun _ => Orderly.of_new)
      rw [leavesConnected_append_iff] at hleft
      exact (hI hleft.1).step hstep hleft.2
    have horderly := hend hleaves
    exact ⟨horderly.agreed, horderly.stayedOff⟩
  · exact o.refuses hs
  · exact Session.refuses_inState hs (by decide)

/-- A scope whose body logs off and on again is left connected. -/
theorem lifecycle_iff_relogon :
    ∃ events out, Session.Runs (Script.logon Simulator.handle fun _ => .withMastership
        (.logoff (.logon Simulator.handle .done)) .done).run {} events out ∧
      LeavesConnected events ∧ AgreesThroughout events ∧ StaysOff events := by
  have hrun : Session.Runs (Script.logon Simulator.handle fun _ => .withMastership
      (.logoff (.logon Simulator.handle .done)) .done).run {} [
        .call (.logon Simulator.handle {}) (.ok ()),
        .remark (.control { state := .loggedOn, handle := some Simulator.handle }),
        .call .requestMastership (.ok ()),
        .remark (.control { state := .mastershipHeld, handle := some Simulator.handle }),
        .call .releaseMastership (.ok ()),
        .call .logoff (.ok ()),
        .remark .loggedOff,
        .remark (.control {}),
        .call (.logon Simulator.handle {}) (.ok ()),
        .remark (.control { state := .loggedOn, handle := some Simulator.handle }),
        .remark (.leaving { state := .loggedOn, handle := some Simulator.handle }),
        .call .releaseMastership (.ok ()),
        .remark (.control { state := .loggedOn, handle := some Simulator.handle })]
      (.ok (), { state := .loggedOn, handle := some Simulator.handle }) :=
    Dialogue.path_run (Simulator.respond {}) _ {}
  refine ⟨_, _, hrun, ?_⟩
  have hleaves := (lifecycle_iff hrun).1.mpr (by simp [LeavesConnected])
  exact ⟨(lifecycle_iff hrun).1.mp hleaves, hleaves⟩

/-- A scope whose body logs off leaves its session logged on to nothing. -/
theorem scope_loggedOn_after_logoff :
    ∃ events out, Session.Runs (Script.logon Simulator.handle fun _ => .withMastership
        (.logoff (.done (.ok ()))) .done).run {} events out ∧
      out.2.state = .loggedOn ∧ out.2.handle = none ∧ ¬AgreesThroughout events ∧
      ¬StaysOff events := by
  have hrun : Session.Runs (Script.logon Simulator.handle fun _ => .withMastership
      (.logoff (.done (.ok ()))) .done).run {} (([
        .call (.logon Simulator.handle {}) (.ok ()),
        .remark (.control { state := .loggedOn, handle := some Simulator.handle }),
        .call .requestMastership (.ok ()),
        .remark (.control { state := .mastershipHeld, handle := some Simulator.handle }),
        .call .releaseMastership (.ok ())] : List (Event Remark)) ++
        Event.call .logoff (.ok ()) :: [
        .remark .loggedOff,
        .remark (.control {}),
        .remark (.leaving {}),
        .call .releaseMastership (.ok ())] ++
        [Event.remark (Remark.control { state := .loggedOn })])
      (.ok (), { state := .loggedOn }) :=
    Dialogue.path_run (Simulator.respond {}) _ {}
  refine ⟨_, _, hrun, rfl, rfl, fun hagrees => ?_, fun hstays => ?_⟩
  · have hnone := (hagrees { state := .loggedOn } (by simp)).mpr rfl
    contradiction
  · have hoff := (throughout_concat_iff.mp hstays).2 _ rfl
      ⟨_, _, _, rfl, rfl, by simp [Event.isLogon]⟩
    contradiction

end RobotCell
