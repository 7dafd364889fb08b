import RobotCell.Proofs.Session.Script

/-!
# RobotCell.Proofs.Session.Step

A client and its session, step by step.

`SessionStep` lists everything that can happen while a script runs, with the events that show it and
the session it leaves.  `Script.run_steps` says that this list is complete, so that a law which
every step keeps holds throughout every run (`SessionSteps.preserves`).  It is a case of
`Script.run_law`, where the events of an operation are taken together.
-/

namespace RobotCell

/-! ## Confined operations -/

/-- The calls that read and change nothing. -/
def Call.isRead : Call → Bool
  | .operatingMode | .getData .. | .searchData .. | .programPointer _ | .currentRobtarget _
  | .currentJointtarget _ => true
  | _ => false

/-- The calls that an operation may make in a state of its session. -/
def Call.AllowedIn (c : Call) (state : SessionState) : Prop :=
  c.isRead = true ∧ state ≠ .disconnected ∨ c.isWrite = true ∧ state = .mastershipHeld

namespace Session

variable {ν α β : Type} {s : Session}

/-- An operation leaves the session as it is, and makes only calls that its state allows. -/
def Confined (x : SessionM (Dialogue ν) α) (s : Session) : Prop :=
  ∀ events result s', Runs x s events (result, s') →
    s' = s ∧ ∀ e ∈ events, ∃ c answer, e = .call c answer ∧ c.AllowedIn s.state

/-- A value makes no calls. -/
theorem confined_pure {a : α} : Confined (pure a : SessionM (Dialogue ν) α) s := by
  intro events result s' h
  obtain ⟨rfl, heq⟩ := runs_pure_iff.mp h
  cases heq
  exact ⟨rfl, by simp⟩

/-- A refusal makes no calls. -/
theorem confined_refuse {e : Failure} : Confined (refuse e : SessionM (Dialogue ν) α) s := by
  intro events result s' h
  obtain ⟨rfl, heq⟩ := runs_refuse_iff.mp h
  cases heq
  exact ⟨rfl, by simp⟩

/-- A call that is allowed in a state stays within it. -/
theorem confined_conduct {c : Call} (hc : c.AllowedIn s.state) :
    Confined (conduct c : SessionM (Dialogue ν) c.Answer) s := by
  intro events result s' h
  obtain ⟨rfl, rfl⟩ := runs_conduct_iff.mp h
  refine ⟨rfl, fun e he => ?_⟩
  rw [List.mem_singleton] at he
  exact ⟨c, result, he, hc⟩

/-- A sequence is confined when what follows a success of its first part is. -/
theorem confined_bind {x : SessionM (Dialogue ν) β} {f : β → SessionM (Dialogue ν) α}
    (hx : Confined x s) (hf : ∀ b, (∃ events, Runs x s events (.ok b, s)) → Confined (f b) s) :
    Confined (x >>= f) s := by
  intro events result s' h
  rcases runs_bind_iff.mp h with ⟨e, s₁, hrun, heq⟩ | ⟨first, b, s₁, rest, rfl, hfirst, hrest⟩
  · cases heq
    exact hx _ _ _ hrun
  · obtain ⟨rfl, hcalls⟩ := hx _ _ _ hfirst
    obtain ⟨rfl, hmore⟩ := hf b ⟨first, hfirst⟩ _ _ _ hrest
    refine ⟨rfl, fun e he => ?_⟩
    cases List.mem_append.mp he with
    | inl he => exact hcalls e he
    | inr he => exact hmore e he

/-- Looking at the state makes no calls. -/
theorem confined_get_bind {f : Session → SessionM (Dialogue ν) α} (hf : Confined (f s) s) :
    Confined (get >>= f) s := fun events result s' h =>
  hf events result s' (runs_get_bind_iff.mp h)

/-- An operation for one state is looked at in that state alone. -/
theorem confined_inState {operation : String} {wanted : SessionState}
    {body : SessionM (Dialogue ν) α} (hbody : s.state = wanted → Confined body s) :
    Confined (inState operation wanted body) s := by
  intro events result s' h
  rcases runs_inState_iff.mp h with ⟨hstate, hrun⟩ | ⟨_, rfl, heq⟩
  · exact hbody hstate _ _ _ hrun
  · cases heq
    exact ⟨rfl, by simp⟩

/-- An operation for a connection is looked at with one alone. -/
theorem confined_connected {operation : String} {body : SessionM (Dialogue ν) α}
    (hbody : s.state ≠ .disconnected → Confined body s) :
    Confined (connected operation body) s := by
  intro events result s' h
  rcases runs_connected_iff.mp h with ⟨hstate, hrun⟩ | ⟨_, rfl, heq⟩
  · exact hbody hstate _ _ _ hrun
  · cases heq
    exact ⟨rfl, by simp⟩

/-! ### The operations -/

variable {files : Files} {path module name : String}

/-- A transfer succeeds with mastership only, and returns the name of its file. -/
theorem of_runs_transfer {operation remote : String} {events : List (Event ν)} {s' : Session}
    (h : Runs (transfer files operation path) s events (.ok remote, s')) :
    s.state = .mastershipHeld ∧ fileName? path = some remote := by
  unfold transfer at h
  cases hfile : files.require path with
  | error e =>
      rw [hfile] at h
      simp at h
  | ok _ =>
      rw [hfile] at h
      rcases runs_inState_iff.mp h with ⟨hstate, hbody⟩ | ⟨_, _, hout⟩
      · refine ⟨hstate, ?_⟩
        cases hname : fileName? path with
        | none =>
            rw [hname] at hbody
            simp at hbody
        | some name =>
            rw [hname] at hbody
            rcases runs_bind_iff.mp hbody with ⟨_, _, _, hout⟩ | ⟨_, _, _, _, _, _, hpure⟩
            · simp at hout
            · obtain ⟨_, hout⟩ := runs_pure_iff.mp hpure
              cases hout
              rfl
      · simp at hout

/-- A transfer stays within the state that it finds. -/
theorem confined_transfer {operation : String} :
    Confined (transfer files operation path : SessionM (Dialogue ν) String) s := by
  unfold transfer
  cases files.require path with
  | error e => exact confined_refuse
  | ok _ =>
      refine confined_inState fun hstate => ?_
      cases fileName? path with
      | none => exact confined_refuse
      | some remote =>
          exact confined_bind (confined_conduct (.inr ⟨rfl, hstate⟩)) fun _ _ => confined_pure

/-- So does the upload of a module. -/
theorem confined_uploadModule {mode : LoadMode} :
    Confined (uploadModule files path mode : SessionM (Dialogue ν) Unit) s :=
  confined_bind confined_transfer fun _ ⟨_, h⟩ =>
    confined_get_bind (confined_conduct (.inr ⟨rfl, (of_runs_transfer h).1⟩))

/-- So does the upload of a program. -/
theorem confined_uploadProgram :
    Confined (uploadProgram files path : SessionM (Dialogue ν) Unit) s :=
  confined_bind confined_transfer fun _ ⟨_, h⟩ =>
    confined_get_bind (confined_conduct (.inr ⟨rfl, (of_runs_transfer h).1⟩))

/-- A start stays within the state that it finds. -/
theorem confined_startExecution : Confined (startExecution : SessionM (Dialogue ν) Unit) s := by
  refine confined_inState fun hstate => ?_
  have hreset : Confined (do conduct (.resetProgramPointer (← get).task); conduct .start :
      SessionM (Dialogue ν) Unit) s :=
    confined_get_bind (confined_bind (confined_conduct (.inr ⟨rfl, hstate⟩)) fun _ _ =>
      confined_conduct (.inr ⟨rfl, hstate⟩))
  refine confined_bind (confined_conduct (.inl ⟨rfl, by simp [hstate]⟩)) fun mode _ => ?_
  by_cases hmode : mode = .auto
  · simpa [hmode] using hreset
  · simpa [hmode] using confined_bind confined_refuse fun _ _ => hreset

/-- Looking an item up stays within a state with a connection. -/
theorem confined_lookup (hstate : s.state ≠ .disconnected) :
    Confined (lookup module name : SessionM (Dialogue ν) DataItem) s := by
  refine confined_get_bind (confined_bind (confined_conduct (.inl ⟨rfl, hstate⟩)) fun item? _ => ?_)
  cases item? with
  | none => exact confined_refuse
  | some item => exact confined_pure

/-- A write of a value stays within the state that it finds. -/
theorem confined_writeValue {value : DataValue} :
    Confined (writeValue module name value : SessionM (Dialogue ν) Unit) s := by
  refine confined_inState fun hstate => ?_
  have hset : Confined (do conduct (.setData (← get).task module name value.literal) :
      SessionM (Dialogue ν) Unit) s :=
    confined_get_bind (confined_conduct (.inr ⟨rfl, hstate⟩))
  refine confined_bind (confined_lookup (by simp [hstate])) fun item _ => ?_
  by_cases hfits : value.fits item.dataType = true
  · simpa [hfits] using hset
  · simpa [hfits] using confined_bind confined_refuse fun _ _ => hset

/-- A write of a text stays within the state that it finds. -/
theorem confined_writeText {text : String} :
    Confined (writeText module name text : SessionM (Dialogue ν) Unit) s := by
  unfold writeText
  cases DataValue.parse text with
  | error e => exact confined_refuse
  | ok value => exact confined_writeValue

/-- A read of a value stays within the state that it finds. -/
theorem confined_readValue :
    Confined (readValue module name : SessionM (Dialogue ν) DataValue) s := by
  refine confined_connected fun hstate => ?_
  refine confined_bind (confined_lookup hstate) fun item _ => ?_
  cases DataValue.parseAs item.dataType item.value with
  | error e => exact confined_refuse
  | ok value => exact confined_pure

/-- A read of the position stays within the state that it finds. -/
theorem confined_currentPosition :
    Confined (currentPosition : SessionM (Dialogue ν) (Pose × JointPose)) s := by
  refine confined_connected fun hstate => ?_
  refine confined_get_bind (confined_bind (confined_conduct (.inl ⟨rfl, hstate⟩)) fun pose _ => ?_)
  exact confined_get_bind (confined_bind (confined_conduct (.inl ⟨rfl, hstate⟩)) fun joints _ =>
    confined_pure)

end Session

/-- Every operation is confined. -/
theorem Operation.confined {ν α : Type} (o : Operation α) (s : Session) :
    Session.Confined (o.run : SessionM (Dialogue ν) α) s := by
  cases o with
  | operatingMode =>
      exact Session.confined_connected fun hstate => Session.confined_conduct (.inl ⟨rfl, hstate⟩)
  | uploadModule files path mode => exact Session.confined_uploadModule
  | uploadProgram files path => exact Session.confined_uploadProgram
  | startExecution => exact Session.confined_startExecution
  | writeValue module name value => exact Session.confined_writeValue
  | writeText module name text => exact Session.confined_writeText
  | readValue module name => exact Session.confined_readValue
  | searchData module =>
      exact Session.confined_connected fun hstate =>
        Session.confined_get_bind (Session.confined_conduct (.inl ⟨rfl, hstate⟩))
  | setProgramPointer module row =>
      exact Session.confined_inState fun hstate =>
        Session.confined_get_bind (Session.confined_conduct (.inr ⟨rfl, hstate⟩))
  | programPointer =>
      exact Session.confined_connected fun hstate =>
        Session.confined_get_bind (Session.confined_conduct (.inl ⟨rfl, hstate⟩))
  | currentPosition => exact Session.confined_currentPosition
  | subscribe => exact Session.confined_connected fun _ => Session.confined_pure

/-! ## Steps -/

/-- What happens while a script runs, one step at a time: the session before, the events, and the
session after. -/
inductive SessionStep : Session → List (Event Remark) → Session → Prop where
  | control (s : Session) : SessionStep s [.remark (.control s)] s
  | call {s : Session} (c : Call) (answer : Except Failure c.Answer) (h : c.AllowedIn s.state) :
      SessionStep s [.call c answer] s
  | logonFails {s : Session} (handle : ControllerHandle) (e : Failure)
      (h : s.state = .disconnected) :
      SessionStep s [.call (.logon handle s.user) (.error e)] s
  | logon {s : Session} (handle : ControllerHandle) (h : s.state = .disconnected) :
      SessionStep s [.call (.logon handle s.user) (.ok ())] (s.loggedOnTo handle)
  | logoff {s : Session} (a : Except Failure Unit) (h : s.state = .loggedOn) :
      SessionStep s [.call .logoff a] s.ended
  | logoffInScope {s : Session} (a b : Except Failure Unit) (h : s.state = .mastershipHeld) :
      SessionStep s [.call .releaseMastership a, .call .logoff b] s.ended
  | loggedOff {s : Session} (h : s.state = .disconnected) : SessionStep s [.remark .loggedOff] s
  | requestFails {s : Session} (e : Failure) (h : s.state = .loggedOn) :
      SessionStep s [.call .requestMastership (.error e)] s
  | request {s : Session} (h : s.state = .loggedOn) :
      SessionStep s [.call .requestMastership (.ok ())] { s with state := .mastershipHeld }
  /-- A scope ends in whatever state its body left the session, and returns to its client. -/
  | leave (s : Session) (a : Except Failure Unit) :
      SessionStep s [.remark (.leaving s), .call .releaseMastership a,
        .remark (.control { s with state := .loggedOn })] { s with state := .loggedOn }

/-- Steps one after another. -/
inductive SessionSteps : Session → List (Event Remark) → Session → Prop where
  | nil (s : Session) : SessionSteps s [] s
  | cons {s s₁ s' : Session} {first rest : List (Event Remark)} (h : SessionStep s first s₁)
      (hrest : SessionSteps s₁ rest s') : SessionSteps s (first ++ rest) s'

namespace SessionSteps

variable {s s₁ s' : Session} {first rest events : List (Event Remark)}

theorem single (h : SessionStep s events s') : SessionSteps s events s' := by
  have hone := cons h (nil s')
  rwa [List.append_nil] at hone

/-- Steps one after another are steps. -/
theorem append (h : SessionSteps s first s₁) (hrest : SessionSteps s₁ rest s') :
    SessionSteps s (first ++ rest) s' := by
  induction h with
  | nil => exact hrest
  | cons hstep _ ih =>
      rw [List.append_assoc]
      exact cons hstep (ih hrest)

/-- A law of histories and sessions that every step keeps holds after any steps. -/
theorem preserves {I : List (Event Remark) → Session → Prop}
    (hstep : ∀ {history s events s'}, I history s → SessionStep s events s' →
      I (history ++ events) s')
    (h : SessionSteps s events s') {history : List (Event Remark)} (hI : I history s) :
    I (history ++ events) s' := by
  induction h generalizing history with
  | nil => rwa [List.append_nil]
  | cons hfirst _ ih =>
      rw [← List.append_assoc]
      exact ih (hstep hI hfirst)

end SessionSteps

/-! ## Laws of runs -/

/-- A call that operations make, none that opens or closes a scope. -/
def Event.isWork {ν : Type} : Event ν → Bool
  | .call c _ => c.isRead || c.isWrite
  | .remark _ => false

/-- A relation that holds of one operation, and of one step between operations, and of several one
after another. -/
structure ScriptLaw (R : Session → List (Event Remark) → Session → Prop) : Prop where
  nil : ∀ s, R s [] s
  append : ∀ {s s₁ s' first rest}, R s first s₁ → R s₁ rest s' → R s (first ++ rest) s'
  operation : ∀ {β : Type} {s events s'} {result : Except Failure β} (o : Operation β),
    Session.Runs o.run s events (result, s') → R s events s'
  scope : ∀ {s events s'}, SessionStep s events s' → events.all (!·.isWork) = true → R s events s'

namespace ScriptLaw

variable {R : Session → List (Event Remark) → Session → Prop} {s s' : Session}
  {events : List (Event Remark)}

/-- The client is in control, and goes on. -/
theorem control (law : ScriptLaw R) (h : R s events s') :
    R s (.remark (.control s) :: events) s' :=
  law.append (law.scope (.control s) rfl) h

theorem logon (law : ScriptLaw R) {handle : ControllerHandle} {result : Except Failure Unit}
    (h : Session.Runs (Session.logon handle) s events (result, s')) : R s events s' := by
  rcases Session.runs_logon_iff.mp h with ⟨_, rfl, hout⟩ | ⟨hstate, e, rfl, hout⟩ |
    ⟨hstate, rfl, hout⟩
  · cases hout
    exact law.nil s
  · cases hout
    exact law.scope (.logonFails handle e hstate) rfl
  · cases hout
    exact law.scope (.logon handle hstate) rfl

/-- A logoff ends the session. -/
theorem logoff (law : ScriptLaw R) {result : Except Failure Unit}
    (h : Session.Runs Session.logoff s events (result, s')) :
    R s events s' ∧ s'.state = .disconnected := by
  rcases Session.runs_logoff_iff.mp h with ⟨hstate, rfl, hout⟩ | ⟨hstate, a, rfl, hout⟩ |
    ⟨hstate, a, b, rfl, hout⟩
  · cases hout
    exact ⟨law.nil s, hstate⟩
  · cases hout
    exact ⟨law.scope (.logoff a hstate) rfl, rfl⟩
  · cases hout
    exact ⟨law.scope (.logoffInScope a b hstate) rfl, rfl⟩

end ScriptLaw

/-- **Scripts keep laws**: a law of operations and scopes holds of every run. -/
theorem Script.run_law {R : Session → List (Event Remark) → Session → Prop} (law : ScriptLaw R)
    {α : Type} (p : Script α) {s s' : Session} {events : List (Event Remark)}
    {result : Except Failure α} (h : Session.Runs p.run s events (result, s')) :
    R s events s' := by
  induction p generalizing s events s' with
  | done r =>
      obtain ⟨rfl, hout⟩ := Dialogue.path_pure_iff.mp h
      cases hout
      exact law.nil s
  | look next ih => exact ih s h
  | perform o next ih =>
      obtain ⟨first, ⟨r, s₁⟩, _, rfl, ho, hrest⟩ := Dialogue.path_bind_iff.mp h
      obtain ⟨rest, rfl, hnext⟩ := Dialogue.path_remark_bind_iff.mp hrest
      exact law.append (law.operation o ho) (law.control (ih r hnext))
  | logon handle next ih =>
      obtain ⟨first, ⟨r, s₁⟩, _, rfl, hlogon, hrest⟩ := Dialogue.path_bind_iff.mp h
      obtain ⟨rest, rfl, hnext⟩ := Dialogue.path_remark_bind_iff.mp hrest
      exact law.append (law.logon hlogon) (law.control (ih r hnext))
  | logoff next ih =>
      obtain ⟨first, ⟨r, s₁⟩, _, rfl, hlogoff, hrest⟩ := Dialogue.path_bind_iff.mp h
      obtain ⟨_, rfl, hcontrol⟩ := Dialogue.path_remark_bind_iff.mp hrest
      obtain ⟨rest, rfl, hnext⟩ := Dialogue.path_remark_bind_iff.mp hcontrol
      obtain ⟨hlaw, hstate⟩ := law.logoff hlogoff
      exact law.append hlaw (law.append (law.scope (.loggedOff hstate) rfl)
        (law.control (ih hnext)))
  | withLogon handle body next ihbody ih =>
      obtain ⟨_, ⟨r, s₁⟩, _, rfl, hscope, hrest⟩ := Dialogue.path_bind_iff.mp h
      obtain ⟨rest, rfl, hnext⟩ := Dialogue.path_remark_bind_iff.mp hrest
      refine law.append ?_ (law.control (ih r hnext))
      rcases Session.runs_withLogon_iff.mp hscope with ⟨e, s₂, hlogon, hout⟩ |
        ⟨first, s₂, middle, r', s₃, last, ended, s₄, rfl, hlogon, hbody, hlogoff, hout⟩
      · cases hout
        exact law.logon hlogon
      · cases hout
        obtain ⟨inner, rfl, hinner⟩ := Dialogue.path_remark_bind_iff.mp hbody
        exact law.append (law.logon hlogon)
          (law.append (law.control (ihbody hinner)) (law.logoff hlogoff).1)
  | withMastership body next ihbody ih =>
      obtain ⟨_, ⟨r, s₁⟩, _, rfl, hscope, hrest⟩ := Dialogue.path_bind_iff.mp h
      obtain ⟨rest, rfl, hnext⟩ := Dialogue.path_remark_bind_iff.mp hrest
      have htail := ih r hnext
      rcases Session.runs_withMastership_iff.mp hscope with ⟨_, rfl, hout⟩ |
        ⟨hstate, e, rfl, hout⟩ | ⟨hstate, middle, r', s₂, released, rfl, hbody, hout⟩
      · cases hout
        exact law.control htail
      · cases hout
        exact law.append (law.scope (.requestFails e hstate) rfl) (law.control htail)
      · cases hout
        obtain ⟨_, rfl, hrun⟩ := Dialogue.path_remark_bind_iff.mp hbody
        obtain ⟨inner, ⟨r'', s₃⟩, _, rfl, hinner, hleave⟩ := Dialogue.path_bind_iff.mp hrun
        obtain ⟨_, rfl, hend⟩ := Dialogue.path_remark_bind_iff.mp hleave
        obtain ⟨rfl, hout⟩ := Dialogue.path_pure_iff.mp hend
        cases hout
        have hlaw := law.append (law.scope (.request hstate) rfl) (law.control
          (law.append (ihbody hinner) (law.append (law.scope (.leave s₂ released) rfl) htail)))
        simpa using hlaw

/-! ## Scripts go by steps -/

namespace Session

variable {s s' : Session} {events : List (Event Remark)}

/-- A confined operation goes by single calls. -/
theorem confined_steps {α : Type} {x : SessionM ScriptM α} {result : Except Failure α}
    (hx : Confined x s) (h : Runs x s events (result, s')) : SessionSteps s events s' := by
  obtain ⟨rfl, hcalls⟩ := hx _ _ _ h
  clear h
  induction events with
  | nil => exact .nil s'
  | cons e rest ih =>
      obtain ⟨c, answer, rfl, hallowed⟩ := hcalls e List.mem_cons_self
      exact .cons (.call c answer hallowed) (ih fun e he => hcalls e (List.mem_cons_of_mem _ he))

end Session

/-- **Scripts go by steps**: all that happens in a run is listed in `SessionStep`. -/
theorem Script.run_steps {α : Type} (p : Script α) {s s' : Session}
    {events : List (Event Remark)} {result : Except Failure α}
    (h : Session.Runs p.run s events (result, s')) : SessionSteps s events s' :=
  p.run_law ⟨.nil, .append, fun o hrun => Session.confined_steps (o.confined _) hrun,
    fun hstep _ => .single hstep⟩ h

end RobotCell
