import RobotCell.Proofs.Controller.Effect
import RobotCell.Proofs.Workflow.Order

/-!
# RobotCell.Proofs.Workflow.Simulated

Plans on a simulated controller.

A simulator answers every call from its state, so that the steps of a plan that it lets pass tell
which state they leave (`Simulator.GoesThrough`).  The plan of sending a program leaves the module
in its file as the only one (`modules_of_work`), and does not fail on a controller that lets the
holder of mastership work (`Held.work`).
-/

namespace RobotCell

open Session

/-! ## Answers from a state -/

namespace Dialogue

variable {ν α β σ : Type} {respond : Responder σ}

theorem run_call (c : Call) (s : σ) :
    (Transport.call c : Dialogue ν _).run respond s = respond c s := rfl

/-- The second part of a dialogue is answered from what the first leaves. -/
theorem run_bind (d : Dialogue ν α) (f : α → Dialogue ν β) (s : σ) :
    (d >>= f).run respond s = (f (d.run respond s).1).run respond (d.run respond s).2 := by
  show (d.bind f).run respond s = _
  induction d generalizing s with
  | done a => rfl
  | ask c next ih => exact ih _ _
  | tell r next ih => exact ih s

/-- Events whose calls are answered from a state, and the state that they leave. -/
inductive Answered (respond : Responder σ) : σ → List (Event ν) → σ → Prop where
  | nil (s : σ) : Answered respond s [] s
  | call {s s' : σ} {events : List (Event ν)} (c : Call)
      (h : Answered respond (respond c s).2 events s') :
      Answered respond s (.call c (respond c s).1 :: events) s'
  | remark {s s' : σ} {events : List (Event ν)} (r : ν) (h : Answered respond s events s') :
      Answered respond s (.remark r :: events) s'

/-- A run has the answers of the responder. -/
theorem answered_run (respond : Responder σ) (d : Dialogue ν α) (s : σ) :
    Answered respond s (d.trace respond s) (d.run respond s).2 := by
  induction d generalizing s with
  | done a => exact .nil s
  | ask c next ih => exact .call c (ih (respond c s).1 (respond c s).2)
  | tell r next ih => exact .remark r (ih s)

/-- A run follows a path whose events are answered. -/
theorem exists_path_of_run {d : Dialogue ν α} {s s' : σ} {value : α}
    (h : d.run respond s = (value, s')) :
    ∃ events, d.Path events value ∧ Answered respond s events s' := by
  have hpath := d.path_run respond s
  have hanswered := answered_run respond d s
  rw [h] at hpath hanswered
  exact ⟨_, hpath, hanswered⟩

/-- The first call is answered, and then the rest. -/
theorem Answered.of_call {s s' : σ} {c : Call} {answer : Except Failure c.Answer}
    {events : List (Event ν)} (h : Answered respond s (.call c answer :: events) s') :
    ∃ s₁, respond c s = (answer, s₁) ∧ Answered respond s₁ events s' := by
  cases h with
  | call _ h => exact ⟨_, rfl, h⟩

theorem Answered.cons {s s₁ s' : σ} {c : Call} {answer : Except Failure c.Answer}
    {events : List (Event ν)} (hcall : respond c s = (answer, s₁))
    (h : Answered respond s₁ events s') : Answered respond s (.call c answer :: events) s' := by
  have hfirst : Answered respond (respond c s).2 events s' := by rwa [hcall]
  have hcalled := Answered.call c hfirst
  rwa [hcall] at hcalled

/-- A path whose events are answered is the run. -/
theorem Path.run_eq {d : Dialogue ν α} {events : List (Event ν)} {value : α} {s s' : σ}
    (hpath : d.Path events value) (hanswered : Answered respond s events s') :
    d.run respond s = (value, s') := by
  induction hpath generalizing s with
  | done value =>
      cases hanswered
      rfl
  | @ask c next events value answer h ih =>
      obtain ⟨s₁, hcall, hmore⟩ := hanswered.of_call
      show (next (respond c s).1).run respond (respond c s).2 = _
      rw [hcall]
      exact ih hmore
  | tell h ih =>
      cases hanswered with
      | remark r hmore => exact ih hmore

/-- Events one after another are answered one after another. -/
theorem Answered.of_append {s s' : σ} {first rest : List (Event ν)}
    (h : Answered respond s (first ++ rest) s') :
    ∃ s₁, Answered respond s first s₁ ∧ Answered respond s₁ rest s' := by
  induction first generalizing s with
  | nil => exact ⟨s, .nil s, h⟩
  | cons e first ih =>
      cases h with
      | call c h =>
          obtain ⟨s₁, hfirst, hrest⟩ := ih h
          exact ⟨s₁, .call c hfirst, hrest⟩
      | remark r h =>
          obtain ⟨s₁, hfirst, hrest⟩ := ih h
          exact ⟨s₁, .remark r hfirst, hrest⟩

end Dialogue

/-! ## Simulated steps -/

/-- The calls that change what is loaded. -/
def Call.changesModules : Call → Bool
  | .loadProgram .. | .loadModule .. | .setData .. => true
  | _ => false

namespace Simulator

/-- An operation of a session on a simulated controller. -/
def perform {α : Type} (workspace : Files) (x : SessionM (Dialogue Empty) α) (s : Session)
    (sim : Simulator) : (Except Failure α × Session) × Simulator :=
  Dialogue.run (respond workspace) (x s) sim

variable {workspace : Files} {sim sim' : Simulator} {rest : List PlanStep}

/-- A simulator goes through a plan up to a failure, if there is one, and is left in a state. -/
def GoesThrough (workspace : Files) (sim : Simulator) (steps : List PlanStep)
    (failure : Option Failure) (sim' : Simulator) : Prop :=
  ∃ (ν : Type) (events : List (Event ν)), Performs steps events failure ∧
    Dialogue.Answered (respond workspace) sim events sim'

namespace GoesThrough

variable {c : Call} {fault? : c.Answer → Option Failure} {failure : Option Failure}

theorem of_nil (h : GoesThrough workspace sim [] failure sim') : failure = none ∧ sim' = sim := by
  obtain ⟨ν, events, hperforms, hanswered⟩ := h
  cases hperforms
  cases hanswered
  exact ⟨rfl, rfl⟩

/-- A call that does not fail was answered with success. -/
theorem of_call (h : GoesThrough workspace sim (.call c fault? :: rest) none sim') :
    ∃ answer sim₁, respond workspace c sim = (.ok answer, sim₁) ∧ fault? answer = none ∧
      GoesThrough workspace sim₁ rest none sim' := by
  obtain ⟨ν, events, hperforms, hanswered⟩ := h
  cases hperforms with
  | accepted hfault hrest =>
      obtain ⟨sim₁, hcall, hmore⟩ := hanswered.of_call
      exact ⟨_, sim₁, hcall, hfault, ν, _, hrest, hmore⟩

/-- A call that is answered with success goes on. -/
theorem of_answer (h : GoesThrough workspace sim (.call c fault? :: rest) failure sim')
    {answer : c.Answer} {sim₁ : Simulator} (hcall : respond workspace c sim = (.ok answer, sim₁))
    (hfault : fault? answer = none) : GoesThrough workspace sim₁ rest failure sim' := by
  obtain ⟨ν, events, hperforms, hanswered⟩ := h
  cases hperforms with
  | refused e =>
      obtain ⟨_, heq, -⟩ := hanswered.of_call
      rw [hcall] at heq
      cases heq
  | rejected hbad =>
      obtain ⟨_, heq, -⟩ := hanswered.of_call
      rw [hcall] at heq
      cases heq
      rw [hfault] at hbad
      cases hbad
  | accepted _ hrest =>
      obtain ⟨_, heq, hmore⟩ := hanswered.of_call
      rw [hcall] at heq
      cases heq
      exact ⟨ν, _, hrest, hmore⟩

end GoesThrough

/-- A logon that succeeds reached the controller with its credentials. -/
theorem respond_logon {handle : ControllerHandle} {user : Credentials}
    (h : respond workspace (.logon handle user) sim = (.ok (), sim')) :
    sim.reachable = true ∧ user = sim.credentials ∧ sim' = { sim with loggedOn := true } := by
  cases effect_of_ok h with
  | logon _ hreachable => exact ⟨hreachable, rfl, rfl⟩
  | read hread => cases hread

/-- A later state of a controller that can be logged on to just like before. -/
structure SameAccess (sim sim' : Simulator) : Prop where
  reachable : sim'.reachable = sim.reachable
  credentials : sim'.credentials = sim.credentials

theorem SameAccess.refl (sim : Simulator) : SameAccess sim sim := ⟨rfl, rfl⟩

/-- Nothing that is called makes a controller unreachable or changes who may log on. -/
theorem sameAccess_respond (c : Call) (sim : Simulator) :
    SameAccess sim (respond workspace c sim).2 := by
  have houtcome := respond_outcome workspace c sim
  generalize respond workspace c sim = out at houtcome
  cases houtcome with
  | failed e => exact ⟨rfl, rfl⟩
  | succeeded a heffect => cases heffect <;> exact ⟨rfl, rfl⟩

/-- No call changes who has access. -/
theorem sameAccess_of_answered {ν : Type} {events : List (Event ν)}
    (h : Dialogue.Answered (respond workspace) sim events sim') : SameAccess sim sim' := by
  induction h with
  | nil sim => exact .refl sim
  | @call sim _ _ c _ ih =>
      have hstep : SameAccess sim (respond workspace c sim).2 := sameAccess_respond c sim
      exact ⟨ih.reachable.trans hstep.reachable, ih.credentials.trans hstep.credentials⟩
  | remark _ _ ih => exact ih

/-- A call that does not load or set data leaves the modules as they are. -/
theorem modules_respond {c : Call} (h : c.changesModules = false) (sim : Simulator) :
    (respond workspace c sim).2.modules = sim.modules := by
  have houtcome := respond_outcome workspace c sim
  generalize respond workspace c sim = out at houtcome
  cases houtcome with
  | failed e => rfl
  | succeeded a heffect =>
      cases heffect with
      | addProgram | replaceProgram | addModule | replaceModule | setData => cases h
      | _ => rfl

/-- Calls that change no module leave them all as they are. -/
theorem modules_of_answered {ν : Type} {events : List (Event ν)}
    (h : Dialogue.Answered (respond workspace) sim events sim')
    (hevents : ∀ c answer, .call c answer ∈ events → c.changesModules = false) :
    sim'.modules = sim.modules := by
  induction h with
  | nil => rfl
  | @call sim _ _ c _ ih =>
      have hmodules : (respond workspace c sim).2.modules = sim.modules :=
        modules_respond (hevents c _ List.mem_cons_self) sim
      rw [ih fun c' answer hmem => hevents c' answer (List.mem_cons_of_mem _ hmem), hmodules]
  | remark _ _ ih => exact ih fun c answer hmem => hevents c answer (List.mem_cons_of_mem _ hmem)

/-- An upload that succeeds stores the text of the local file. -/
theorem respond_putFile {path remote : String} {answer : Unit}
    (h : respond workspace (.putFile path remote true) sim = (.ok answer, sim')) :
    ∃ text, workspace.readAny path = .ok text ∧
      sim' = { sim with files := storeFile sim.files remote text } := by
  cases effect_of_ok h with
  | putFile htext => exact ⟨_, htext, rfl⟩
  | read hread => cases hread

/-- A program that replaces another leaves no module. -/
theorem respond_loadProgram {task remote : String} {answer : Unit}
    (h : respond workspace (.loadProgram task remote .replace) sim = (.ok answer, sim')) :
    sim'.modules = [] := by
  cases effect_of_ok h with
  | replaceProgram => rfl
  | read hread => cases hread

/-- A module that is loaded first is loaded from its stored text. -/
theorem respond_loadModule {task remote : String} {mode : LoadMode} {answer : Unit}
    (hempty : sim.modules = [])
    (h : respond workspace (.loadModule task remote mode) sim = (.ok answer, sim')) :
    ∃ text m, sim.storedFile? remote = some text ∧ LoadedModule.scan text = .ok m ∧
      sim'.modules = [m] := by
  cases effect_of_ok h with
  | addModule _ _ hstored hscan => exact ⟨_, _, hstored, hscan, by simp [hempty]⟩
  | replaceModule _ _ _ _ hold => exact absurd (by simp [module?, hempty]) hold
  | read hread => cases hread

/-- A stored file is found under its name. -/
theorem storedFile?_storeFile (files : List (String × String)) (name content : String) :
    List.lookup name (storeFile files name content) = some content := by
  unfold storeFile
  split
  · rename_i hsome
    induction files with
    | nil => simp at hsome
    | cons entry files ih =>
        obtain ⟨key, old⟩ := entry
        rw [List.map_cons]
        by_cases hkey : key = name
        · simp [hkey]
        · have hne : (name == key) = false := by simpa using Ne.symm hkey
          rw [List.lookup_cons, hne] at hsome
          simpa [hkey, List.lookup_cons, hne] using ih hsome
  · rename_i hnone
    rw [Option.not_isSome_iff_eq_none] at hnone
    induction files with
    | nil => simp
    | cons entry files ih =>
        obtain ⟨key, old⟩ := entry
        by_cases hkey : (name == key) = true
        · rw [List.lookup_cons, hkey] at hnone
          cases hnone
        · rw [Bool.not_eq_true] at hkey
          rw [List.lookup_cons, hkey] at hnone
          simpa [List.lookup_cons, hkey] using ih hnone

/-! ## Plans -/

/-- A file that is uploaded is stored with its text under its name, and then loaded. -/
theorem GoesThrough.of_upload {path : String} {load : String → Call}
    (h : GoesThrough workspace sim (PlanStep.upload path load ++ rest) none sim') :
    ∃ remote text, workspace.readAny path = .ok text ∧
      GoesThrough workspace { sim with files := storeFile sim.files remote text }
        (.plain (load remote) :: rest) none sim' := by
  unfold PlanStep.upload PlanStep.store at h
  cases hname : fileName? path with
  | none =>
      rw [hname] at h
      obtain ⟨ν, events, hperforms, -⟩ := h
      cases hperforms
  | some remote =>
      rw [hname] at h
      obtain ⟨_, sim₁, hput, -, hrest⟩ := GoesThrough.of_call h
      obtain ⟨text, htext, rfl⟩ := respond_putFile hput
      exact ⟨remote, text, htext, hrest⟩

/-- The work of sending a program leaves the module in its file as the only one. -/
theorem modules_of_work {p : ProgramFiles} {task : String}
    (h : GoesThrough workspace sim ((Workflow.Order.sendProgram workspace p).work task) none sim') :
    ∃ text m, workspace.readAny p.module = .ok text ∧ LoadedModule.scan text = .ok m ∧
      sim'.modules = [m] := by
  obtain ⟨_, sim₁, -, -, huploads⟩ := GoesThrough.of_call h
  obtain ⟨program, _, -, hprogram⟩ := huploads.of_upload
  obtain ⟨_, sim₂, hload, -, hmodule⟩ := hprogram.of_call
  have hempty : sim₂.modules = [] := respond_loadProgram hload
  obtain ⟨remote, text, htext, hlast⟩ := hmodule.of_upload
  obtain ⟨_, sim₃, hload', -, ν, events, hstart, hanswered⟩ := hlast.of_call
  have hempty' : ({ sim₂ with files := storeFile sim₂.files remote text } : Simulator).modules = [] :=
    hempty
  obtain ⟨stored, m, hstored, hscan, hmodules⟩ := respond_loadModule hempty' hload'
  obtain rfl : text = stored :=
    Option.some.inj ((storedFile?_storeFile sim₂.files remote text).symm.trans hstored)
  refine ⟨text, m, htext, hscan, ?_⟩
  rw [← hmodules]
  refine modules_of_answered hanswered fun c answer hmem => ?_
  obtain ⟨c', fault?, answer', heq, hstep⟩ := hstart.exists_call hmem
  cases heq
  simp only [PlanStep.start, PlanStep.auto, PlanStep.plain, List.mem_cons, List.not_mem_nil,
    or_false] at hstep
  rcases hstep with hstep | hstep | hstep <;> cases hstep <;> rfl

/-! ## Ready controllers -/

/-- A controller that takes a program: it lets the user log on, it is in automatic mode, nobody
holds mastership and nothing is set to fail. -/
structure Ready (sim : Simulator) (user : Credentials) : Prop where
  reachable : sim.reachable = true
  user : user = sim.credentials
  mode : sim.mode = .auto
  mastership : sim.mastership = false
  load : sim.rejectNextLoad = none
  release : sim.failNextRelease = false

/-- A controller whose holder of mastership it lets work. -/
structure Held (sim : Simulator) : Prop where
  loggedOn : sim.loggedOn = true
  mastership : sim.mastership = true
  mode : sim.mode = .auto
  load : sim.rejectNextLoad = none
  release : sim.failNextRelease = false

namespace Held

variable {failure : Option Failure} {task : String}

theorem requireLoggedOn (h : sim.Held) : sim.requireLoggedOn = .ok () := if_pos h.loggedOn

theorem writing (h : sim.Held) (operation : String) (next : Except Failure Unit × Simulator) :
    sim.writing operation next = next := by
  simp only [Simulator.writing, requireMastership, h.requireLoggedOn, h.mastership, if_true]

theorem takeRejection (h : sim.Held) (remote : String) : sim.takeRejection remote = none := by
  rw [Simulator.takeRejection, h.load]
  rfl

/-- Behind the question for the mode a held controller goes on with the rest. -/
theorem auto (h : sim.Held) (hsteps : GoesThrough workspace sim (.auto :: rest) failure sim') :
    GoesThrough workspace sim rest failure sim' := by
  have hcall : respond workspace .operatingMode sim = (.ok sim.mode, sim) := by
    rw [respond, reading, h.requireLoggedOn]
    rfl
  exact hsteps.of_answer hcall (if_pos h.mode)

/-- A file that can be read is stored. -/
theorem upload (h : sim.Held) {path remote text : String} {load : String → Call}
    (hname : fileName? path = some remote) (htext : workspace.readAny path = .ok text)
    (hsteps : GoesThrough workspace sim (PlanStep.upload path load ++ rest) failure sim') :
    GoesThrough workspace { sim with files := storeFile sim.files remote text }
      (.plain (load remote) :: rest) failure sim' := by
  have hcall : respond workspace (.putFile path remote true) sim =
      (.ok (), { sim with files := storeFile sim.files remote text }) := by
    simp only [respond, putFile, htext, h.requireLoggedOn, Bool.not_true, Bool.false_and,
      Bool.false_eq_true, if_false]
  unfold PlanStep.upload PlanStep.store at hsteps
  rw [hname] at hsteps
  exact GoesThrough.of_answer hsteps hcall rfl

/-- A stored descriptor is loaded in place of everything that was. -/
theorem loadProgram (h : sim.Held) {remote text : String}
    (hstored : sim.storedFile? remote = some text)
    (hsteps : GoesThrough workspace sim (.plain (.loadProgram task remote .replace) :: rest) failure
      sim') :
    GoesThrough workspace { sim with program := some remote, modules := [], pointer := none } rest
      failure sim' := by
  have hcall : respond workspace (.loadProgram task remote .replace) sim =
      (.ok (), { sim with program := some remote, modules := [], pointer := none }) := by
    simp only [respond, h.writing, Simulator.loadProgram, h.takeRejection, hstored]
  exact hsteps.of_answer hcall rfl

/-- A stored module is loaded as the only one. -/
theorem loadModule (h : sim.Held) {remote text : String} {m : LoadedModule}
    (hstored : sim.storedFile? remote = some text) (hscan : LoadedModule.scan text = .ok m)
    (hempty : sim.modules = [])
    (hsteps : GoesThrough workspace sim (.plain (.loadModule task remote .add) :: rest) failure
      sim') :
    GoesThrough workspace { sim with modules := [m] } rest failure sim' := by
  have hcall : respond workspace (.loadModule task remote .add) sim =
      (.ok (), { sim with modules := [m] }) := by
    simp only [respond, h.writing, Simulator.loadModule, h.takeRejection, hstored, hscan, module?,
      hempty, List.find?_nil, List.nil_append]
  exact hsteps.of_answer hcall rfl

/-- Execution starts at the entry routine of the one module. -/
theorem start (h : sim.Held) {m : LoadedModule} (hmodules : sim.modules = [m])
    (hsteps : GoesThrough workspace sim (PlanStep.start task) failure sim') :
    failure = none ∧ sim' = { sim with pointer := some ⟨m.name, "main", 0⟩, running := true } := by
  let reset : Simulator := { sim with pointer := some ⟨m.name, "main", 0⟩ }
  have hheld : reset.Held := ⟨h.loggedOn, h.mastership, h.mode, h.load, h.release⟩
  have hreset : respond workspace (.resetProgramPointer task) sim = (.ok (), reset) := by
    simp only [respond, h.writing, resetProgramPointer, hmodules, reset]
  have hstart : respond workspace .start reset = (.ok (), { reset with running := true }) := by
    simp only [respond, hheld.writing, Simulator.start, hheld.mode, if_true]
  exact (GoesThrough.of_answer (GoesThrough.of_answer (h.auto hsteps) hreset rfl) hstart rfl).of_nil

end Held

/-- A controller with a program: its files are stored, its module is the only one loaded, and it
runs from the entry routine. -/
def withProgram (sim : Simulator) (file descriptor file' text : String) (m : LoadedModule) :
    Simulator :=
  { sim with
    files := storeFile (storeFile sim.files file descriptor) file' text
    program := some file
    modules := [m]
    pointer := some ⟨m.name, "main", 0⟩
    running := true }

/-- Sending a program whose files can be read, and whose module can be scanned, does not fail, and
leaves that program. -/
theorem Held.work (h : sim.Held) {p : ProgramFiles} {task descriptor text file file' : String}
    {failure : Option Failure} {m : LoadedModule} (hprogram : fileName? p.program = some file)
    (hmodule : fileName? p.module = some file')
    (hdescriptor : workspace.readAny p.program = .ok descriptor)
    (htext : workspace.readAny p.module = .ok text) (hscan : LoadedModule.scan text = .ok m)
    (hsteps : GoesThrough workspace sim ((Workflow.Order.sendProgram workspace p).work task) failure
      sim') : failure = none ∧ sim' = sim.withProgram file descriptor file' text m := by
  let described : Simulator := { sim with files := storeFile sim.files file descriptor }
  have hdescribed : described.Held := ⟨h.loggedOn, h.mastership, h.mode, h.load, h.release⟩
  have hload := h.upload hprogram hdescriptor (h.auto hsteps)
  have hmodules := hdescribed.loadProgram (storedFile?_storeFile sim.files file descriptor) hload
  let emptied : Simulator := { described with program := some file, modules := [], pointer := none }
  have hemptied : emptied.Held := ⟨h.loggedOn, h.mastership, h.mode, h.load, h.release⟩
  have hload' := hemptied.upload hmodule htext hmodules
  let stored : Simulator := { emptied with files := storeFile emptied.files file' text }
  have hstored : stored.Held := ⟨h.loggedOn, h.mastership, h.mode, h.load, h.release⟩
  have hstart := hstored.loadModule (storedFile?_storeFile emptied.files file' text) hscan rfl hload'
  let loaded : Simulator := { stored with modules := [m] }
  have hloaded : loaded.Held := ⟨h.loggedOn, h.mastership, h.mode, h.load, h.release⟩
  exact hloaded.start rfl hstart

end Simulator

end RobotCell
