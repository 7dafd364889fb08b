import RobotCell.Proofs.Session.History
import RobotCell.Proofs.Session.Step

/-!
# RobotCell.Proofs.Session.Mastership

Writing calls are made with mastership only.

The session itself remembers what the calls have granted: while it is in `mastershipHeld`,
mastership was granted and neither released nor ended by a logoff since.  Every step keeps that
(`GrantedWhileHeld.step`), whatever bodies of scopes do, and writing calls are made in that state
only.
-/

namespace RobotCell

/-! ## Events -/

namespace Event

variable {ν : Type}

/-- A call for mastership that was granted. -/
def isGrant : Event ν → Bool
  | .call .requestMastership (.ok _) => true
  | _ => false

/-- A call that gives mastership back. -/
def isYield : Event ν → Bool
  | .call .releaseMastership _ | .call .logoff _ => true
  | _ => false

end Event

namespace Call

variable {c : Call} {state : SessionState} {ν : Type}

/-- Writing is allowed with mastership only. -/
theorem AllowedIn.state_of_isWrite (h : c.AllowedIn state) (hw : c.isWrite = true) :
    state = .mastershipHeld := by
  rcases h with ⟨hread, _⟩ | ⟨_, hheld⟩
  · cases c <;> simp_all [isRead, isWrite]
  · exact hheld

theorem AllowedIn.isYield_eq (h : c.AllowedIn state) (answer : Except Failure c.Answer) :
    (Event.call c answer : Event ν).isYield = false := by
  cases c <;> simp_all [AllowedIn, isRead, isWrite, Event.isYield]

end Call

/-! ## The law -/

/-- Mastership has been granted, and not been given back since. -/
def Granted (history : List (Event Remark)) : Prop := Since (·.isGrant) (·.isYield) history

/-- Every writing call was made with mastership, which is still granted while the session holds
it. -/
def GrantedWhileHeld (history : List (Event Remark)) (s : Session) : Prop :=
  Throughout (fun before e => e.isWrite → Granted before) history ∧
    (s.state = .mastershipHeld → Granted history)

namespace GrantedWhileHeld

variable {history events : List (Event Remark)} {s s' : Session} {e : Event Remark}

/-- One event keeps the law when it writes with mastership only, and when the session holds
mastership after it only if the event grants it or leaves it alone. -/
theorem concat (h : GrantedWhileHeld history s)
    (hwrite : e.isWrite = true → s.state = .mastershipHeld)
    (hheld : s'.state = .mastershipHeld →
      e.isGrant = true ∨ s.state = .mastershipHeld ∧ e.isYield = false) :
    GrantedWhileHeld (history ++ [e]) s' := by
  obtain ⟨hwrites, hgranted⟩ := h
  constructor
  · rw [throughout_concat_iff]
    exact ⟨hwrites, fun hw => hgranted (hwrite hw)⟩
  · intro hstate
    rw [Granted, since_concat_iff]
    rcases hheld hstate with hgrant | ⟨hbefore, hyield⟩
    · exact .inl hgrant
    · exact .inr ⟨hgranted hbefore, by simp [hyield]⟩

/-- An event that neither writes nor gives mastership back keeps the law. -/
theorem concat_same (h : GrantedWhileHeld history s) (hwrite : e.isWrite = false)
    (hyield : e.isYield = false) : GrantedWhileHeld (history ++ [e]) s :=
  h.concat (by simp [hwrite]) fun hheld => .inr ⟨hheld, hyield⟩

/-- Giving mastership back keeps the law when the session no longer holds it. -/
theorem concat_yield (h : GrantedWhileHeld history s) (hwrite : e.isWrite = false)
    (hstate : s'.state ≠ .mastershipHeld) : GrantedWhileHeld (history ++ [e]) s' :=
  h.concat (by simp [hwrite]) fun hheld => absurd hheld hstate

theorem step (h : GrantedWhileHeld history s) (hstep : SessionStep s events s') :
    GrantedWhileHeld (history ++ events) s' := by
  cases hstep with
  | control | loggedOff => exact h.concat_same rfl rfl
  | call c answer hallowed =>
      exact h.concat hallowed.state_of_isWrite fun hheld => .inr ⟨hheld, hallowed.isYield_eq answer⟩
  | logonFails handle e hstate => exact h.concat_same rfl rfl
  | logon handle hstate => exact h.concat_yield rfl (by simp)
  | logoff a hstate => exact h.concat_yield rfl (by simp)
  | logoffInScope a b hstate =>
      have hreleased : GrantedWhileHeld (history ++ [Event.call .releaseMastership a])
          { s with state := .loggedOn } := h.concat_yield rfl (by simp)
      have hended : GrantedWhileHeld (history ++ [Event.call .releaseMastership a] ++
          [Event.call .logoff b]) s.ended := hreleased.concat_yield rfl (by simp)
      rwa [List.append_assoc] at hended
  | requestFails e hstate => exact h.concat_same rfl rfl
  | request hstate => exact h.concat (fun hw => absurd hw (by decide)) fun _ => .inl rfl
  | leave a =>
      have hreleased : GrantedWhileHeld (history ++ [Event.remark (Remark.leaving s)] ++
          [Event.call .releaseMastership a]) { s with state := .loggedOn } :=
        GrantedWhileHeld.concat_yield (h.concat_same rfl rfl) rfl (by simp)
      have hcontrol : GrantedWhileHeld (history ++ [Event.remark (Remark.leaving s)] ++
          [Event.call .releaseMastership a] ++
          [Event.remark (Remark.control { s with state := .loggedOn })])
          { s with state := .loggedOn } := hreleased.concat_same rfl rfl
      rwa [List.append_assoc, List.append_assoc] at hcontrol

end GrantedWhileHeld

/-- **Writing is exclusive**: in every run of every script on a new session, whatever the calls
answer and however scopes nest, a writing call comes after a granted call for mastership, with
neither a release nor a logoff in between. -/
theorem exclusive_write {α : Type} {p : Script α} {user : Credentials} {task : String}
    {events : List (Event Remark)} {out : Except Failure α × Session}
    (h : Session.Runs p.run { user, task } events out) :
    Throughout (fun before e => e.isWrite → Granted before) events := by
  have hstart : GrantedWhileHeld [] { user, task } := ⟨throughout_nil, by simp⟩
  exact (p.run_steps h).preserves GrantedWhileHeld.step hstart |>.1

/-- The pointer is moved in a scope, and not moved after it. -/
theorem exclusive_write_pointer :
    ∃ events out, Session.Runs (Script.logon Simulator.handle fun _ =>
        .withMastership (.perform (.setProgramPointer "Cell" 3) .done) fun _ =>
        .perform (.setProgramPointer "Cell" 4) .done).run {} events out ∧
      .call (.setProgramPointer "T_ROB1" "Cell" 3) (.ok ()) ∈ events ∧
      Throughout (fun before e => e.isWrite → Granted before) events := by
  have hrun : Session.Runs (Script.logon Simulator.handle fun _ =>
      .withMastership (.perform (.setProgramPointer "Cell" 3) .done) fun _ =>
      .perform (.setProgramPointer "Cell" 4) .done).run {} [
        .call (.logon Simulator.handle {}) (.ok ()),
        .remark (.control { state := .loggedOn, handle := some Simulator.handle }),
        .call .requestMastership (.ok ()),
        .remark (.control { state := .mastershipHeld, handle := some Simulator.handle }),
        .call (.setProgramPointer "T_ROB1" "Cell" 3) (.ok ()),
        .remark (.control { state := .mastershipHeld, handle := some Simulator.handle }),
        .remark (.leaving { state := .mastershipHeld, handle := some Simulator.handle }),
        .call .releaseMastership (.ok ()),
        .remark (.control { state := .loggedOn, handle := some Simulator.handle }),
        .remark (.control { state := .loggedOn, handle := some Simulator.handle })]
      (.error (.wrongState "set program pointer" "MastershipHeld" "LoggedOn"),
        { state := .loggedOn, handle := some Simulator.handle }) :=
    Dialogue.path_run (Simulator.respond {}) _ ({ modules := [⟨"Cell", []⟩] } : Simulator)
  exact ⟨_, _, hrun, by simp, exclusive_write hrun⟩

end RobotCell
