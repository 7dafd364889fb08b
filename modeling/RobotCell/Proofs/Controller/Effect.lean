import RobotCell.Proofs.Session.Step

/-!
# RobotCell.Proofs.Controller.Effect

What a call to a simulated controller can do.

A call that fails leaves one state (`Simulator.afterFailure`): everything as it was, but for an
announced failure that is used up, and for mastership when its release fails.  What a call that
succeeds leaves, and what it found, is listed in `Simulator.Effect`.  Whatever is said of all calls
goes by these cases (`Simulator.respond_outcome`).
-/

namespace RobotCell

namespace Call

/-- The stored file that a call loads. -/
def loads? : Call → Option String
  | .loadProgram _ remote _ | .loadModule _ remote _ => some remote
  | _ => none

def isRelease : Call → Bool
  | .releaseMastership => true
  | _ => false

end Call

namespace Simulator

/-! ## Failures -/

/-- A call is the load that an announced rejection is for: one that is made with mastership. -/
def meetsRejection (s : Simulator) (c : Call) : Bool :=
  c.loads?.isSome && s.loggedOn && s.mastership

/-- What a call that fails leaves. -/
def afterFailure (s : Simulator) (c : Call) : Simulator :=
  { s with
    mastership := s.mastership && !c.isRelease
    rejectNextLoad := if s.meetsRejection c then none else s.rejectNextLoad
    failNextRelease := s.failNextRelease && !c.isRelease }

variable {workspace : Files} {s s' : Simulator} {c : Call}

/-- A call that fails without an announcement leaves everything as it was. -/
theorem afterFailure_eq_self (hreject : s.meetsRejection c = false ∨ s.rejectNextLoad = none)
    (hrelease : c.isRelease = false) : s.afterFailure c = s := by
  have hsame : (if s.meetsRejection c then none else s.rejectNextLoad) = s.rejectNextLoad := by
    cases hreject with
    | inl hmeets => simp [hmeets]
    | inr hnone => simp [hnone]
  simp [afterFailure, hsame, hrelease]

/-! ## Successes -/

/-- What a call that succeeds found, and what it leaves. -/
inductive Effect (workspace : Files) (s : Simulator) : Call → Simulator → Prop where
  | read {c : Call} (hread : c.isRead = true) (hlogged : s.loggedOn = true) : Effect workspace s c s
  | logon (handle : ControllerHandle) (hreachable : s.reachable = true) :
      Effect workspace s (.logon handle s.credentials) { s with loggedOn := true }
  | logoff : Effect workspace s .logoff { s with loggedOn := false, mastership := false }
  | request (hlogged : s.loggedOn = true) (hfree : s.mastership = false) :
      Effect workspace s .requestMastership { s with mastership := true, grants := s.grants + 1 }
  | release (hfail : s.failNextRelease = false) :
      Effect workspace s .releaseMastership { s with mastership := false }
  | putFile {path remote text : String} {overwrite : Bool} (htext : workspace.readAny path = .ok text)
      (hlogged : s.loggedOn = true)
      (hnew : overwrite = true ∨ (s.storedFile? remote).isSome = false) :
      Effect workspace s (.putFile path remote overwrite)
        { s with files := storeFile s.files remote text }
  | addProgram {task remote text : String} (hheld : s.mastership = true)
      (hreject : s.rejectNextLoad = none) (hstored : s.storedFile? remote = some text) :
      Effect workspace s (.loadProgram task remote .add) { s with program := some remote }
  | replaceProgram {task remote text : String} (hheld : s.mastership = true)
      (hreject : s.rejectNextLoad = none) (hstored : s.storedFile? remote = some text) :
      Effect workspace s (.loadProgram task remote .replace)
        { s with program := some remote, modules := [], pointer := none }
  | addModule {task remote text : String} {mode : LoadMode} {m : LoadedModule}
      (hheld : s.mastership = true) (hreject : s.rejectNextLoad = none)
      (hstored : s.storedFile? remote = some text) (hscan : LoadedModule.scan text = .ok m)
      (hnew : s.module? m.name = none) :
      Effect workspace s (.loadModule task remote mode) { s with modules := s.modules ++ [m] }
  | replaceModule {task remote text : String} {m : LoadedModule} (hheld : s.mastership = true)
      (hreject : s.rejectNextLoad = none) (hstored : s.storedFile? remote = some text)
      (hscan : LoadedModule.scan text = .ok m) (hold : s.module? m.name ≠ none) :
      Effect workspace s (.loadModule task remote .replace)
        { s with modules := updateModule s.modules m.name fun _ => m }
  | setData {task module name value : String} (hheld : s.mastership = true) :
      Effect workspace s (.setData task module name value)
        { s with modules := updateModule s.modules module fun m =>
          { m with items := updateItem m.items name value } }
  | setPointer {task module : String} {row : Nat} (hheld : s.mastership = true) :
      Effect workspace s (.setProgramPointer task module row)
        { s with pointer := some ⟨module, pointerRoutine, row⟩ }
  | resetPointer {task : String} {m : LoadedModule} {rest : List LoadedModule}
      (hheld : s.mastership = true) (hmodules : s.modules = m :: rest) :
      Effect workspace s (.resetProgramPointer task) { s with pointer := some ⟨m.name, "main", 0⟩ }
  | start (hheld : s.mastership = true) (hmode : s.mode = .auto) :
      Effect workspace s .start { s with running := true }

/-- How a call ends. -/
inductive Outcome {α : Type} (workspace : Files) (c : Call) (s : Simulator) :
    Except Failure α × Simulator → Prop where
  | failed (e : Failure) : Outcome workspace c s (.error e, s.afterFailure c)
  | succeeded (a : α) {s' : Simulator} (h : Effect workspace s c s') :
      Outcome workspace c s (.ok a, s')

/-- A call is let through just when someone is logged on. -/
theorem requireLoggedOn_eq (s : Simulator) :
    s.loggedOn = true ∧ s.requireLoggedOn = .ok () ∨
      s.loggedOn = false ∧ ∃ e, s.requireLoggedOn = .error e := by
  cases hlogged : s.loggedOn <;> simp [requireLoggedOn, hlogged]

namespace Outcome

variable {α : Type} {out : Except Failure Unit × Simulator}

/-- A call that fails without an announcement. -/
theorem refused (e : Failure) (hreject : s.meetsRejection c = false ∨ s.rejectNextLoad = none)
    (hrelease : c.isRelease = false) :
    Outcome workspace c s ((.error e, s) : Except Failure α × Simulator) := by
  have hfailed : Outcome workspace c s ((.error e, s.afterFailure c) : Except Failure α × _) :=
    .failed e
  rwa [afterFailure_eq_self hreject hrelease] at hfailed

/-- A read answers and leaves the controller as it is, or is refused. -/
theorem reading (answer : α) (hread : c.isRead = true) :
    Outcome workspace c s (s.reading answer) := by
  have hmeets : s.meetsRejection c = false := by
    cases c <;> first | rfl | cases hread
  have hrelease : c.isRelease = false := by
    cases c <;> first | rfl | cases hread
  rcases requireLoggedOn_eq s with ⟨hlogged, hok⟩ | ⟨-, e, herror⟩
  · rw [Simulator.reading, hok]
    exact .succeeded answer (.read hread hlogged)
  · rw [Simulator.reading, herror]
    exact .refused e (.inl hmeets) hrelease

/-- A call that needs mastership is refused without it. -/
theorem writing {operation : String} (hrelease : c.isRelease = false)
    (h : s.loggedOn = true → s.mastership = true → Outcome workspace c s out) :
    Outcome workspace c s (s.writing operation out) := by
  have hmeets (hfree : (s.loggedOn && s.mastership) = false) :
      s.meetsRejection c = false ∨ s.rejectNextLoad = none := by
    rw [meetsRejection, Bool.and_assoc, hfree, Bool.and_false]
    exact .inl rfl
  cases hlogged : s.loggedOn with
  | false =>
      simp only [Simulator.writing, requireMastership, requireLoggedOn, hlogged]
      exact .refused _ (hmeets (by simp [hlogged])) hrelease
  | true =>
      cases hheld : s.mastership with
      | false =>
          simp only [Simulator.writing, requireMastership, requireLoggedOn, hlogged, hheld]
          exact .refused _ (hmeets (by simp [hheld])) hrelease
      | true =>
          simp only [Simulator.writing, requireMastership, requireLoggedOn, hlogged, hheld]
          exact h hlogged hheld

/-- A logon is refused without a change, or logs on and nothing else. -/
theorem logon (handle : ControllerHandle) (user : Credentials) :
    Outcome workspace (.logon handle user) s (s.logon handle user) := by
  unfold Simulator.logon
  split
  · exact .refused _ (.inl rfl) rfl
  rename_i hreachable
  split
  · exact .refused _ (.inl rfl) rfl
  rename_i huser
  obtain rfl : user = s.credentials := Decidable.not_not.mp huser
  exact .succeeded () (.logon handle (by simpa using hreachable))

/-- Mastership is granted when it is free and someone is logged on, and refused otherwise. -/
theorem request : Outcome workspace .requestMastership s s.requestMastership := by
  unfold requestMastership
  rcases requireLoggedOn_eq s with ⟨hlogged, hok⟩ | ⟨-, e, herror⟩
  · rw [hok]
    cases hheld : s.mastership with
    | true => exact .refused _ (.inl rfl) rfl
    | false => exact .succeeded () (.request hlogged hheld)
  · rw [herror]
    exact .refused e (.inl rfl) rfl

/-- A release drops mastership, and fails only where that was announced. -/
theorem release : Outcome workspace .releaseMastership s s.releaseMastership := by
  unfold releaseMastership
  split
  · have hfailed : Outcome workspace .releaseMastership s
        ((.error (.refused .releaseTimedOut), s.afterFailure .releaseMastership) :
          Except Failure Unit × _) := .failed _
    simpa [afterFailure, meetsRejection, Call.loads?, Call.isRelease] using hfailed
  · rename_i hfail
    exact .succeeded () (.release (by simpa using hfail))

/-- An upload stores one file, or is refused without a change. -/
theorem putFile (path remote : String) (overwrite : Bool) :
    Outcome workspace (.putFile path remote overwrite) s
      (s.putFile (workspace.readAny path) remote overwrite) := by
  unfold Simulator.putFile
  cases htext : workspace.readAny path with
  | error e => exact .refused e (.inl rfl) rfl
  | ok text =>
      rcases requireLoggedOn_eq s with ⟨hlogged, hok⟩ | ⟨-, e, herror⟩
      · simp only [hok]
        split
        · exact .refused _ (.inl rfl) rfl
        rename_i hnew
        have hover : overwrite = true ∨ (s.storedFile? remote).isSome = false := by
          cases overwrite with
          | true => exact .inl rfl
          | false => exact .inr (by simpa using hnew)
        exact .succeeded () (.putFile htext hlogged hover)
      · simp only [herror]
        exact .refused e (.inl rfl) rfl

/-- A load that is made with mastership first looks for an announced rejection. -/
theorem of_takeRejection {remote : String} (hload : c.loads? = some remote)
    (hrelease : c.isRelease = false) (hlogged : s.loggedOn = true) (hheld : s.mastership = true)
    (h : s.takeRejection remote = some out) : Outcome workspace c s out := by
  obtain ⟨reason, -, rfl⟩ := Option.map_eq_some_iff.mp h
  have hfailed : Outcome workspace c s
      ((.error (.loadRejected remote (.other reason)), s.afterFailure c) :
        Except Failure Unit × _) := .failed _
  simpa [afterFailure, meetsRejection, hload, hrelease, hlogged, hheld] using hfailed

/-- Loading a program names a stored file, and replacing one unloads the modules as well. -/
theorem loadProgram (task remote : String) (mode : LoadMode) (hlogged : s.loggedOn = true)
    (hheld : s.mastership = true) :
    Outcome workspace (.loadProgram task remote mode) s (s.loadProgram remote mode) := by
  unfold Simulator.loadProgram
  split
  · exact of_takeRejection rfl rfl hlogged hheld ‹_›
  rename_i hnone
  have hreject : s.rejectNextLoad = none := Option.map_eq_none_iff.mp hnone
  cases hstored : s.storedFile? remote with
  | none => exact .refused _ (.inr hreject) rfl
  | some text =>
      cases mode with
      | add => exact .succeeded () (.addProgram hheld hreject hstored)
      | replace => exact .succeeded () (.replaceProgram hheld hreject hstored)

/-- Loading a module adds it, or replaces the one of its name. -/
theorem loadModule (task remote : String) (mode : LoadMode) (hlogged : s.loggedOn = true)
    (hheld : s.mastership = true) :
    Outcome workspace (.loadModule task remote mode) s (s.loadModule remote mode) := by
  unfold Simulator.loadModule
  split
  · exact of_takeRejection rfl rfl hlogged hheld ‹_›
  rename_i hnone
  have hreject : s.rejectNextLoad = none := Option.map_eq_none_iff.mp hnone
  cases hstored : s.storedFile? remote with
  | none => exact .refused _ (.inr hreject) rfl
  | some text =>
      cases hscan : LoadedModule.scan text with
      | error defect => simpa only [hscan] using .refused _ (.inr hreject) rfl
      | ok m =>
          simp only [hscan]
          cases hmodule : s.module? m.name with
          | none => exact .succeeded () (.addModule hheld hreject hstored hscan hmodule)
          | some old =>
              cases mode with
              | add => exact .refused _ (.inr hreject) rfl
              | replace =>
                  exact .succeeded () (.replaceModule hheld hreject hstored hscan (by simp [hmodule]))

/-- A write changes the value of one item, or is refused without a change. -/
theorem setData (task module name value : String) (hheld : s.mastership = true) :
    Outcome workspace (.setData task module name value) s (s.setData module name value) := by
  unfold Simulator.setData
  split
  · exact .refused _ (.inl rfl) rfl
  · exact .succeeded () (.setData hheld)

/-- A pointer is set in a module that is there, or is refused without a change. -/
theorem setProgramPointer (task module : String) (row : Nat) (hheld : s.mastership = true) :
    Outcome workspace (.setProgramPointer task module row) s (s.setProgramPointer module row) := by
  unfold Simulator.setProgramPointer
  split
  · exact .refused _ (.inl rfl) rfl
  · exact .succeeded () (.setPointer hheld)

/-- A reset puts the pointer to the main routine of the first module. -/
theorem resetProgramPointer (task : String) (hheld : s.mastership = true) :
    Outcome workspace (.resetProgramPointer task) s s.resetProgramPointer := by
  unfold Simulator.resetProgramPointer
  split
  · exact .refused _ (.inl rfl) rfl
  · exact .succeeded () (.resetPointer hheld ‹_›)

/-- A start sets the program running, in the automatic mode only. -/
theorem start (hheld : s.mastership = true) : Outcome workspace .start s s.start := by
  unfold Simulator.start
  split
  · exact .succeeded () (.start hheld ‹_›)
  · exact .refused _ (.inl rfl) rfl

end Outcome

/-- Every call ends in one of these ways. -/
theorem respond_outcome (workspace : Files) (c : Call) (s : Simulator) :
    Outcome workspace c s (respond workspace c s) := by
  cases c with
  | logon handle user => exact .logon handle user
  | logoff => exact .succeeded () .logoff
  | requestMastership => exact .request
  | releaseMastership => exact .release
  | putFile path remote overwrite => exact .putFile path remote overwrite
  | loadProgram task remote mode => exact .writing rfl (.loadProgram task remote mode)
  | loadModule task remote mode => exact .writing rfl (.loadModule task remote mode)
  | setData task module name value => exact .writing rfl fun _ => .setData task module name value
  | setProgramPointer task module row =>
      exact .writing rfl fun _ => .setProgramPointer task module row
  | resetProgramPointer task => exact .writing rfl fun _ => .resetProgramPointer task
  | start => exact .writing rfl fun _ => .start
  | operatingMode | getData | searchData | programPointer | currentRobtarget | currentJointtarget =>
      exact .reading _ rfl

/-- An answer to a call comes with the effect of that call. -/
theorem effect_of_ok {a : c.Answer} (h : respond workspace c s = (.ok a, s')) :
    Effect workspace s c s' := by
  have houtcome := respond_outcome workspace c s
  rw [h] at houtcome
  cases houtcome with
  | succeeded _ heffect => exact heffect

end Simulator

end RobotCell
