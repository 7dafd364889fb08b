import Mathlib.Data.List.Nodup
import RobotCell.Proofs.Controller.Effect

/-!
# RobotCell.Proofs.Controller.Atomicity

What holds of a simulated controller at any time.

Clients call it and others adjust it, in any order (`Simulator.after`).  A call that fails leaves
everything as it was but for what an announced failure is about (`Simulator.Atomic`), and what holds
of every state (`Simulator.Consistent`) is kept by one input and so by a run.
-/

namespace RobotCell

namespace Simulator

variable {workspace : Files} {s s' : Simulator} {c : Call}

/-! ## Announced failures -/

/-- What becomes of the failures that are announced to a simulator when it answers a call. -/
structure Announces (c : Call) (s : Simulator) (out : Except Failure c.Answer × Simulator) :
    Prop where
  /-- A rejection is used up by a load that is made with mastership, and by nothing else. -/
  rejection : out.2.rejectNextLoad = if s.meetsRejection c then none else s.rejectNextLoad
  /-- That load fails for the announced reason. -/
  rejected : ∀ remote reason, c.loads? = some remote → s.meetsRejection c = true →
    s.rejectNextLoad = some reason → out.1 = .error (.loadRejected remote (.other reason))
  /-- The failure of a release is used up by a release, and by nothing else. -/
  release : out.2.failNextRelease = (s.failNextRelease && !c.isRelease)
  /-- That release fails, and no other one does. -/
  released : c.isRelease = true →
    out.1 = .error (.refused .releaseTimedOut) ∧ s.failNextRelease = true ∨
      (∃ a, out.1 = .ok a) ∧ s.failNextRelease = false

section Outcome

variable {α : Type} {out : Except Failure α × Simulator}

/-- A load with mastership succeeds only when no rejection is announced. -/
theorem Outcome.rejectNextLoad_eq (h : Outcome workspace c s out) :
    out.2.rejectNextLoad = if s.meetsRejection c then none else s.rejectNextLoad := by
  cases h with
  | failed e => rfl
  | succeeded a h =>
      cases h with
      | read hread => cases c <;> first | rfl | cases hread
      | addProgram | replaceProgram | addModule | replaceModule => simp [*]
      | _ => rfl

/-- An announced failure of a release waits for the next release, which uses it up. -/
theorem Outcome.failNextRelease_eq (h : Outcome workspace c s out) :
    out.2.failNextRelease = (s.failNextRelease && !c.isRelease) := by
  cases h with
  | failed e => rfl
  | succeeded a h =>
      cases h with
      | read hread => cases c <;> first | exact (Bool.and_true _).symm | cases hread
      | release hfail => simp [hfail]
      | _ => exact (Bool.and_true _).symm

end Outcome

/-- A load that meets an announced rejection fails for its reason. -/
theorem respond_rejected {remote reason : String} (hload : c.loads? = some remote)
    (hmeets : s.meetsRejection c = true) (hreason : s.rejectNextLoad = some reason) :
    (respond workspace c s).1 = .error (.loadRejected remote (.other reason)) := by
  have hguard (operation : String) : s.requireMastership operation = .ok () := by
    simp only [meetsRejection, Bool.and_eq_true] at hmeets
    simp [requireMastership, requireLoggedOn, hmeets]
  cases c with
  | loadProgram task file mode =>
      obtain rfl : file = remote := Option.some.inj hload
      simp [respond, writing, hguard, loadProgram, takeRejection, hreason]
  | loadModule task file mode =>
      obtain rfl : file = remote := Option.some.inj hload
      simp [respond, writing, hguard, loadModule, takeRejection, hreason]
  | _ => cases hload

/-- A release fails just when that was announced. -/
theorem respond_release :
    (respond workspace .releaseMastership s).1 = .error (.refused .releaseTimedOut) ∧
        s.failNextRelease = true ∨
      (∃ a, (respond workspace .releaseMastership s).1 = .ok a) ∧ s.failNextRelease = false := by
  cases hfail : s.failNextRelease <;> simp [respond, releaseMastership, hfail]

/-- Announcements are kept until the call that they are for, which they make fail. -/
theorem announces_respond (workspace : Files) (c : Call) (s : Simulator) :
    Announces c s (respond workspace c s) where
  rejection := (respond_outcome workspace c s).rejectNextLoad_eq
  rejected _ _ := respond_rejected
  release := (respond_outcome workspace c s).failNextRelease_eq
  released hrelease := by
    cases c with
    | releaseMastership => exact respond_release
    | _ => cases hrelease

/-! ## Invariant -/

/-- Nobody holds mastership without a logon, and no two loaded modules share a name. -/
structure Consistent (s : Simulator) : Prop where
  loggedOn : s.mastership = true → s.loggedOn = true
  names : (s.modules.map (·.name)).Nodup

/-- A new controller is consistent. -/
theorem consistent_new : ({} : Simulator).Consistent where
  loggedOn h := by cases h
  names := List.nodup_nil

/-- A state with the logon, the mastership and the modules of a consistent one. -/
theorem Consistent.of_eq (h : s.Consistent) (hlogged : s'.loggedOn = s.loggedOn)
    (hmastership : s'.mastership = s.mastership) (hmodules : s'.modules = s.modules) :
    s'.Consistent where
  loggedOn hheld := hlogged.trans (h.loggedOn (hmastership.symm.trans hheld))
  names := by rw [hmodules]; exact h.names

/-- Changing a module leaves the names of modules as they are. -/
theorem map_name_updateModule {modules : List LoadedModule} {name : String}
    {f : LoadedModule → LoadedModule} (hf : ∀ m, m.name = name → (f m).name = name) :
    (updateModule modules name f).map (·.name) = modules.map (·.name) := by
  induction modules with
  | nil => rfl
  | cons m rest ih =>
      by_cases hm : m.name = name
      · simp [updateModule, hm, hf m hm]
      · simp [updateModule, hm, ih]

/-- Changing one module and not its name keeps the names apart. -/
theorem Consistent.updateModule (h : s.Consistent) {name : String}
    {f : LoadedModule → LoadedModule} (hf : ∀ m, m.name = name → (f m).name = name) :
    ({ s with modules := Simulator.updateModule s.modules name f } : Simulator).Consistent where
  loggedOn := h.loggedOn
  names := by
    show ((Simulator.updateModule s.modules name f).map (·.name)).Nodup
    rw [map_name_updateModule hf]
    exact h.names

/-- A module is added under a name that is not there. -/
theorem Consistent.addModule (h : s.Consistent) {m : LoadedModule}
    (hnew : s.module? m.name = none) :
    ({ s with modules := s.modules ++ [m] } : Simulator).Consistent where
  loggedOn := h.loggedOn
  names := by
    have hfresh : m.name ∉ s.modules.map (·.name) := by
      simpa [module?, List.find?_eq_none] using hnew
    show ((s.modules ++ [m]).map (·.name)).Nodup
    rw [List.map_append]
    exact h.names.append (List.nodup_singleton m.name) (List.disjoint_singleton.mpr hfresh)

/-- A call that succeeds keeps what holds of every state. -/
theorem Consistent.effect (h : s.Consistent) (heffect : Effect workspace s c s') :
    s'.Consistent := by
  cases heffect with
  | logon => exact ⟨fun _ => rfl, h.names⟩
  | logoff | release => exact ⟨fun hheld => (by cases hheld), h.names⟩
  | request hlogged => exact ⟨fun _ => hlogged, h.names⟩
  | replaceProgram => exact ⟨h.loggedOn, List.nodup_nil⟩
  | addModule _ _ _ _ hnew => exact h.addModule hnew
  | replaceModule => exact h.updateModule fun _ _ => rfl
  | setData => exact h.updateModule fun _ hm => hm
  | read | putFile | addProgram | setPointer | resetPointer | start => exact h.of_eq rfl rfl rfl

/-- Every call keeps a controller consistent. -/
theorem Consistent.respond (h : s.Consistent) (workspace : Files) (c : Call) :
    (respond workspace c s).2.Consistent := by
  have houtcome := respond_outcome workspace c s
  generalize Simulator.respond workspace c s = out at houtcome
  cases houtcome with
  | failed e => exact ⟨fun hheld => h.loggedOn (Bool.and_eq_true_iff.mp hheld).1, h.names⟩
  | succeeded a heffect => exact h.effect heffect

/-! ## Runs -/

/-- What happens to a simulated controller: a call of some client over its local tree, or an
adjustment. -/
inductive Input where
  | call (workspace : Files) (c : Call)
  | adjustment (a : Adjustment)

def next (s : Simulator) : Input → Simulator
  | .call workspace c => (Simulator.respond workspace c s).2
  | .adjustment a => s.adjust a

def after (s : Simulator) (inputs : List Input) : Simulator := inputs.foldl next s

/-- The rejection that an adjustment announces. -/
def Adjustment.rejection? : Adjustment → Option String
  | .rejectNextLoad reason => some reason
  | _ => none

def Adjustment.failsRelease : Adjustment → Bool
  | .failNextRelease => true
  | _ => false

/-- What an adjustment leaves as it is, and what it announces. -/
structure Adjusts (a : Adjustment) (s s' : Simulator) : Prop where
  access : s'.loggedOn = s.loggedOn ∧ s'.mastership = s.mastership
  stored : s'.files = s.files ∧ s'.program = s.program ∧ s'.modules = s.modules ∧
    s'.running = s.running
  /-- A later rejection takes the place of an earlier one, and no adjustment takes one back. -/
  rejection : s'.rejectNextLoad = a.rejection?.or s.rejectNextLoad
  release : s'.failNextRelease = (a.failsRelease || s.failNextRelease)

/-- An adjustment changes what it says and leaves the rest. -/
theorem adjusts_adjust (a : Adjustment) (s : Simulator) : Adjusts a s (s.adjust a) := by
  cases a with
  | emit kind module row => cases kind <;> exact ⟨⟨rfl, rfl⟩, ⟨rfl, rfl, rfl, rfl⟩, rfl, rfl⟩
  | _ => exact ⟨⟨rfl, rfl⟩, ⟨rfl, rfl, rfl, rfl⟩, rfl, rfl⟩

/-- Every input keeps a controller consistent. -/
theorem Consistent.next (h : s.Consistent) (input : Input) : (s.next input).Consistent := by
  cases input with
  | call workspace c => exact h.respond workspace c
  | adjustment a =>
      have hadjusts := adjusts_adjust a s
      exact h.of_eq hadjusts.access.1 hadjusts.access.2 hadjusts.stored.2.2.1

/-- So do any inputs one after another. -/
theorem Consistent.after (h : s.Consistent) (inputs : List Input) : (s.after inputs).Consistent := by
  induction inputs generalizing s with
  | nil => exact h
  | cons input rest ih => exact ih (h.next input)

/-! ## Atomicity -/

/-- What a call does, whatever it is: when it fails, and to the failures that are announced. -/
structure Atomic (c : Call) (s : Simulator) (out : Except Failure c.Answer × Simulator) : Prop where
  failure : ∀ e, out.1 = .error e → out.2 = s.afterFailure c
  announces : Announces c s out

/-- A call that fails leaves what a failure leaves. -/
theorem Outcome.of_error {α : Type} {out : Except Failure α × Simulator} {e : Failure}
    (h : Outcome workspace c s out) (herror : out.1 = .error e) : out.2 = s.afterFailure c := by
  cases h with
  | failed => rfl
  | succeeded => cases herror

/-- Every call succeeds with its effect or leaves what a failure leaves. -/
theorem atomic_respond (workspace : Files) (c : Call) (s : Simulator) :
    Atomic c s (Simulator.respond workspace c s) where
  failure _ := (respond_outcome workspace c s).of_error
  announces := announces_respond workspace c s

end Simulator

/-- **The simulated controller is atomic**: after any calls and adjustments, mastership needs a
logon and the loaded modules have different names; a call that fails leaves everything else as it
was; and an announced failure waits for the load or the release that it is for. -/
theorem simulator_is_atomic (inputs : List Simulator.Input) :
    let s := Simulator.after {} inputs
    s.Consistent ∧
      (∀ workspace c, Simulator.Atomic c s (Simulator.respond workspace c s)) ∧
      ∀ a, Simulator.Adjusts a s (s.adjust a) :=
  ⟨Simulator.consistent_new.after inputs,
    fun workspace c => Simulator.atomic_respond workspace c _,
    fun a => Simulator.adjusts_adjust a _⟩

end RobotCell
