import RobotCell.Controller.Session

/-!
# RobotCell.Proofs.Session.Path

The paths through a dialogue.

A path picks one answer at every call, any answer at all; its events are the calls with their
answers and the remarks in between.  What holds on every path holds for every transport
(`Dialogue.path_run`).

Operations of a session are dialogues, one for each session that they start in.  The lemmas of
`Session.Runs` take their paths apart, one for each way an operation is put together.
-/

namespace RobotCell

/-! ## Dialogues -/

/-- What can be seen of a dialogue. -/
inductive Event (ν : Type) where
  | call (c : Call) (answer : Except Failure c.Answer)
  | remark (r : ν)

/-- A call that changes the program or the task. -/
def Event.isWrite {ν : Type} : Event ν → Bool
  | .call c _ => c.isWrite
  | .remark _ => false

namespace Dialogue

variable {ν α β : Type}

/-- Nothing follows by returning what there is. -/
theorem bind_done (d : Dialogue ν α) : d.bind .done = d := by
  induction d with
  | done a => rfl
  | ask c next ih => exact congrArg (Dialogue.ask c) (funext ih)
  | tell r next ih => exact congrArg (Dialogue.tell r) ih

/-- Three parts of a dialogue go one after another. -/
theorem bind_bind {γ : Type} (d : Dialogue ν α) (f : α → Dialogue ν β) (g : β → Dialogue ν γ) :
    (d.bind f).bind g = d.bind fun a => (f a).bind g := by
  induction d with
  | done a => rfl
  | ask c next ih => exact congrArg (Dialogue.ask c) (funext ih)
  | tell r next ih => exact congrArg (Dialogue.tell r) ih

instance : LawfulMonad (Dialogue ν) :=
  LawfulMonad.mk' (Dialogue ν) bind_done (fun _ _ => rfl) bind_bind

/-- A path through a dialogue, with its events and its end. -/
inductive Path : Dialogue ν α → List (Event ν) → α → Prop where
  | done (value : α) : Path (.done value) [] value
  | ask {c : Call} {next : Except Failure c.Answer → Dialogue ν α} {events : List (Event ν)}
      {value : α} (answer : Except Failure c.Answer) (h : Path (next answer) events value) :
      Path (.ask c next) (.call c answer :: events) value
  | tell {r : ν} {next : Dialogue ν α} {events : List (Event ν)} {value : α}
      (h : Path next events value) : Path (.tell r next) (.remark r :: events) value

/-- A dialogue that is over has no events. -/
theorem path_done_iff {a value : α} {events : List (Event ν)} :
    (Dialogue.done a).Path events value ↔ events = [] ∧ value = a := by
  constructor
  · intro h
    cases h
    exact ⟨rfl, rfl⟩
  · rintro ⟨rfl, rfl⟩
    exact .done value

/-- A value is reached without an event. -/
@[simp] theorem path_pure_iff {a value : α} {events : List (Event ν)} :
    (pure a : Dialogue ν α).Path events value ↔ events = [] ∧ value = a :=
  path_done_iff

/-- A call may have any answer, and the dialogue goes on with it. -/
theorem path_ask_iff {c : Call} {next : Except Failure c.Answer → Dialogue ν α}
    {events : List (Event ν)} {value : α} :
    (Dialogue.ask c next).Path events value ↔
      ∃ answer rest, events = .call c answer :: rest ∧ (next answer).Path rest value := by
  constructor
  · intro h
    cases h with
    | ask answer h => exact ⟨answer, _, rfl, h⟩
  · rintro ⟨answer, rest, rfl, h⟩
    exact .ask answer h

/-- A remark is an event, and the dialogue goes on. -/
theorem path_tell_iff {r : ν} {next : Dialogue ν α} {events : List (Event ν)} {value : α} :
    (Dialogue.tell r next).Path events value ↔
      ∃ rest, events = .remark r :: rest ∧ next.Path rest value := by
  constructor
  · intro h
    cases h with
    | tell h => exact ⟨_, rfl, h⟩
  · rintro ⟨rest, rfl, h⟩
    exact .tell h

/-- A call alone is one event, with any answer. -/
@[simp] theorem path_call_iff {c : Call} {events : List (Event ν)}
    {answer : Except Failure c.Answer} :
    (Transport.call c : Dialogue ν _).Path events answer ↔ events = [.call c answer] := by
  show (Dialogue.ask c .done).Path events answer ↔ _
  simp only [path_ask_iff, path_done_iff]
  constructor
  · rintro ⟨_, _, rfl, rfl, rfl⟩
    rfl
  · rintro rfl
    exact ⟨answer, [], rfl, rfl, rfl⟩

/-- What comes behind a call goes on with its answer. -/
theorem path_call_bind_iff {c : Call} {f : Except Failure c.Answer → Dialogue ν α}
    {events : List (Event ν)} {value : α} :
    (Transport.call c >>= f).Path events value ↔
      ∃ answer rest, events = .call c answer :: rest ∧ (f answer).Path rest value :=
  path_ask_iff

/-- What comes behind a remark goes on. -/
theorem path_remark_bind_iff {r : ν} {f : Unit → Dialogue ν α} {events : List (Event ν)}
    {value : α} :
    (remark r >>= f).Path events value ↔
      ∃ rest, events = .remark r :: rest ∧ (f ()).Path rest value :=
  path_tell_iff

/-- A path through a sequence is a path through the first part and one through the second. -/
theorem path_bind_iff {d : Dialogue ν α} {f : α → Dialogue ν β} {events : List (Event ν)}
    {value : β} :
    (d >>= f).Path events value ↔
      ∃ first a rest, events = first ++ rest ∧ d.Path first a ∧ (f a).Path rest value := by
  show (d.bind f).Path events value ↔ _
  induction d generalizing events with
  | done a =>
      simp only [bind, path_done_iff]
      constructor
      · intro h
        exact ⟨[], a, events, rfl, ⟨rfl, rfl⟩, h⟩
      · rintro ⟨first, a', rest, rfl, ⟨rfl, rfl⟩, h⟩
        exact h
  | ask c next ih =>
      simp only [bind, path_ask_iff]
      constructor
      · rintro ⟨answer, rest, rfl, h⟩
        obtain ⟨first, a, rest', rfl, hd, hf⟩ := (ih answer).mp h
        exact ⟨_ :: first, a, rest', rfl, ⟨answer, first, rfl, hd⟩, hf⟩
      · rintro ⟨_, a, rest, rfl, ⟨answer, first, rfl, hd⟩, hf⟩
        exact ⟨answer, first ++ rest, rfl, (ih answer).mpr ⟨first, a, rest, rfl, hd, hf⟩⟩
  | tell r next ih =>
      simp only [bind, path_tell_iff]
      constructor
      · rintro ⟨rest, rfl, h⟩
        obtain ⟨first, a, rest', rfl, hd, hf⟩ := ih.mp h
        exact ⟨_ :: first, a, rest', rfl, ⟨first, rfl, hd⟩, hf⟩
      · rintro ⟨_, a, rest, rfl, ⟨first, rfl, hd⟩, hf⟩
        exact ⟨first ++ rest, rfl, ih.mpr ⟨first, a, rest, rfl, hd, hf⟩⟩

/-- The events of a dialogue whose calls are answered from a state. -/
def trace {σ : Type} (respond : Responder σ) (d : Dialogue ν α) (s : σ) : List (Event ν) :=
  match d with
  | .done _ => []
  | .ask c next =>
    let (answer, s) := respond c s
    .call c answer :: (next answer).trace respond s
  | .tell r next => .remark r :: next.trace respond s

/-- Every transport follows a path. -/
theorem path_run {σ : Type} (respond : Responder σ) (d : Dialogue ν α) (s : σ) :
    d.Path (d.trace respond s) (d.run respond s).1 := by
  induction d generalizing s with
  | done a => exact .done a
  | ask c next ih => exact .ask (respond c s).1 (ih (respond c s).1 (respond c s).2)
  | tell r next ih => exact .tell (ih s)

end Dialogue

/-! ## Operations of a session -/

namespace Session

variable {ν α β : Type} {s : Session} {events : List (Event ν)}
  {out : Except Failure α × Session}

/-- A run of an operation from a session, with its events, its result and the session it leaves. -/
def Runs (x : SessionM (Dialogue ν) α) (s : Session) (events : List (Event ν))
    (out : Except Failure α × Session) : Prop :=
  Dialogue.Path (x s) events out

/-- A value is reached without an event and in the same state. -/
@[simp] theorem runs_pure_iff {a : α} :
    Runs (pure a) s events out ↔ events = [] ∧ out = (.ok a, s) :=
  Dialogue.path_pure_iff

/-- A refusal makes no call and leaves the state. -/
@[simp] theorem runs_refuse_iff {e : Failure} :
    Runs (refuse e) s events out ↔ events = [] ∧ out = (.error e, s) :=
  Dialogue.path_pure_iff

/-- A call that is passed on is one event and leaves the state. -/
@[simp] theorem runs_conduct_iff {c : Call} {out : Except Failure c.Answer × Session} :
    Runs (conduct c) s events out ↔ events = [.call c out.1] ∧ out.2 = s := by
  obtain ⟨answer, s'⟩ := out
  show Dialogue.Path (Transport.call c >>= fun answer => pure (answer, s)) _ _ ↔ _
  simp only [Dialogue.path_bind_iff, Dialogue.path_call_iff, Dialogue.path_pure_iff, Prod.mk.injEq]
  constructor
  · rintro ⟨_, _, _, rfl, rfl, rfl, rfl, rfl⟩
    exact ⟨rfl, rfl⟩
  · rintro ⟨rfl, rfl⟩
    exact ⟨_, answer, [], rfl, rfl, rfl, rfl, rfl⟩

/-- A sequence stops at the first failure. -/
theorem runs_bind_iff {x : SessionM (Dialogue ν) β} {f : β → SessionM (Dialogue ν) α} :
    Runs (x >>= f) s events out ↔
      (∃ e s₁, Runs x s events (.error e, s₁) ∧ out = (.error e, s₁)) ∨
        ∃ first b s₁ rest, events = first ++ rest ∧ Runs x s first (.ok b, s₁) ∧
          Runs (f b) s₁ rest out := by
  show Dialogue.Path (x s >>= fun first => ExceptT.bindCont f first.1 first.2) _ _ ↔ _
  simp only [Dialogue.path_bind_iff]
  constructor
  · rintro ⟨first, ⟨result, s₁⟩, rest, rfl, hx, hf⟩
    cases result with
    | error e =>
        obtain ⟨rfl, rfl⟩ := Dialogue.path_pure_iff.mp hf
        exact .inl ⟨e, s₁, by simpa [Runs] using hx, rfl⟩
    | ok b => exact .inr ⟨first, b, s₁, rest, rfl, hx, hf⟩
  · rintro (⟨e, s₁, hx, rfl⟩ | ⟨first, b, s₁, rest, rfl, hx, hf⟩)
    · exact ⟨events, (.error e, s₁), [], by simp, hx, Dialogue.path_pure_iff.mpr ⟨rfl, rfl⟩⟩
    · exact ⟨first, (.ok b, s₁), rest, rfl, hx, hf⟩

/-- A part that depends on the session is taken in the session it starts in. -/
@[simp] theorem runs_get_bind_iff {f : Session → SessionM (Dialogue ν) α} :
    Runs (get >>= f) s events out ↔ Runs (f s) s events out :=
  Iff.rfl

/-! ## Guards -/

/-- In the wanted state an operation runs, and in another it is refused with both named. -/
theorem runs_inState_iff {operation : String} {wanted : SessionState}
    {body : SessionM (Dialogue ν) α} :
    Runs (inState operation wanted body) s events out ↔
      s.state = wanted ∧ Runs body s events out ∨
        s.state ≠ wanted ∧ events = [] ∧
          out = (.error (.wrongState operation wanted.name s.state.name), s) := by
  by_cases h : s.state = wanted
  · simp [Runs, inState, h]
  · simp only [Runs, inState, h, if_false, false_and, false_or, ne_eq, not_false_eq_true, true_and]
    exact runs_refuse_iff

/-- With a connection an operation runs, and without one it is refused. -/
theorem runs_connected_iff {operation : String} {body : SessionM (Dialogue ν) α} :
    Runs (connected operation body) s events out ↔
      s.state ≠ .disconnected ∧ Runs body s events out ∨
        s.state = .disconnected ∧ events = [] ∧
          out = (.error (.wrongState operation "LoggedOn" "Disconnected"), s) := by
  cases h : s.state with
  | disconnected =>
      simp only [Runs, connected, h, ne_eq, not_true, false_and, false_or, true_and]
      exact runs_refuse_iff
  | loggedOn => simp [Runs, connected, h]
  | mastershipHeld => simp [Runs, connected, h]

/-! ## Scopes -/

@[simp] theorem ended_state : s.ended.state = .disconnected := rfl

@[simp] theorem ended_handle : s.ended.handle = none := rfl

/-- The session after a logon. -/
def loggedOnTo (s : Session) (handle : ControllerHandle) : Session :=
  { s with state := .loggedOn, handle := some handle }

@[simp] theorem loggedOnTo_state {handle : ControllerHandle} :
    (s.loggedOnTo handle).state = .loggedOn := rfl

@[simp] theorem loggedOnTo_handle {handle : ControllerHandle} :
    (s.loggedOnTo handle).handle = some handle := rfl

/-- A logoff undoes a logon. -/
theorem loggedOnTo_ended {handle : ControllerHandle} (hs : s.state = .disconnected)
    (hhandle : s.handle = none) : (s.loggedOnTo handle).ended = s := by
  obtain ⟨user, task, state, handle'⟩ := s
  cases hs
  cases hhandle
  rfl

/-- A logon makes one call, and only a call that succeeds changes the session. -/
theorem runs_logon_iff {handle : ControllerHandle} {out : Except Failure Unit × Session} :
    Runs (logon handle) s events out ↔
      (s.state ≠ .disconnected ∧ events = [] ∧
        out = (.error (.wrongState "logon" "Disconnected" s.state.name), s)) ∨
      (s.state = .disconnected ∧ ∃ e, events = [.call (.logon handle s.user) (.error e)] ∧
        out = (.error e, s)) ∨
      (s.state = .disconnected ∧ events = [.call (.logon handle s.user) (.ok ())] ∧
        out = (.ok (), s.loggedOnTo handle)) := by
  unfold logon
  rw [runs_inState_iff]
  constructor
  · rintro (⟨hstate, h⟩ | ⟨hstate, rfl, rfl⟩)
    · obtain ⟨answer, rest, rfl, hrest⟩ := Dialogue.path_call_bind_iff.mp h
      cases answer with
      | error e =>
          obtain ⟨rfl, rfl⟩ := Dialogue.path_pure_iff.mp hrest
          exact .inr (.inl ⟨hstate, e, rfl, rfl⟩)
      | ok _ =>
          obtain ⟨rfl, rfl⟩ := Dialogue.path_pure_iff.mp hrest
          exact .inr (.inr ⟨hstate, rfl, rfl⟩)
    · exact .inl ⟨hstate, rfl, rfl⟩
  · rintro (⟨hstate, rfl, rfl⟩ | ⟨hstate, e, rfl, rfl⟩ | ⟨hstate, rfl, rfl⟩)
    · exact .inr ⟨hstate, rfl, rfl⟩
    · exact .inl ⟨hstate, Dialogue.path_call_bind_iff.mpr ⟨.error e, [], rfl, .done _⟩⟩
    · exact .inl ⟨hstate, Dialogue.path_call_bind_iff.mpr ⟨.ok (), [], rfl, .done _⟩⟩

/-- A logoff gives up what the session holds, and ends it whatever the calls answer. -/
theorem runs_logoff_iff {out : Except Failure Unit × Session} :
    Runs logoff s events out ↔
      (s.state = .disconnected ∧ events = [] ∧ out = (.ok (), s)) ∨
      (s.state = .loggedOn ∧ ∃ a, events = [.call .logoff a] ∧ out = (.ok (), s.ended)) ∨
      (s.state = .mastershipHeld ∧ ∃ a b,
        events = [.call .releaseMastership a, .call .logoff b] ∧ out = (.ok (), s.ended)) := by
  cases hstate : s.state with
  | disconnected => simp [Runs, logoff, hstate]
  | loggedOn =>
      simp only [Runs, logoff, hstate, reduceCtorEq, false_and, false_or, or_false, true_and]
      constructor
      · intro h
        obtain ⟨a, _, rfl, hend⟩ := Dialogue.path_call_bind_iff.mp h
        obtain ⟨rfl, rfl⟩ := Dialogue.path_pure_iff.mp hend
        exact ⟨a, rfl, rfl⟩
      · rintro ⟨a, rfl, rfl⟩
        exact Dialogue.path_call_bind_iff.mpr ⟨a, [], rfl, .done _⟩
  | mastershipHeld =>
      simp only [Runs, logoff, hstate, reduceCtorEq, false_and, false_or, true_and]
      constructor
      · intro h
        obtain ⟨a, _, rfl, hrest⟩ := Dialogue.path_call_bind_iff.mp h
        obtain ⟨b, _, rfl, hend⟩ := Dialogue.path_call_bind_iff.mp hrest
        obtain ⟨rfl, rfl⟩ := Dialogue.path_pure_iff.mp hend
        exact ⟨a, b, rfl, rfl⟩
      · rintro ⟨a, b, rfl, rfl⟩
        exact Dialogue.path_call_bind_iff.mpr
          ⟨a, [_], rfl, Dialogue.path_call_bind_iff.mpr ⟨b, [], rfl, .done _⟩⟩

theorem runs_withLogon_iff {handle : ControllerHandle} {body : SessionM (Dialogue ν) α} :
    Runs (withLogon handle body) s events out ↔
      (∃ e s₁, Runs (logon handle) s events (.error e, s₁) ∧ out = (.error e, s₁)) ∨
      ∃ first s₁ middle result s₂ last ended s₃, events = first ++ (middle ++ last) ∧
        Runs (logon handle) s first (.ok (), s₁) ∧ Runs body s₁ middle (result, s₂) ∧
        Runs logoff s₂ last (ended, s₃) ∧ out = (result, s₃) := by
  simp only [Runs, withLogon, Dialogue.path_bind_iff]
  constructor
  · rintro ⟨first, ⟨result, s₁⟩, rest, rfl, hlogon, h⟩
    cases result with
    | error e =>
        obtain ⟨rfl, rfl⟩ := Dialogue.path_pure_iff.mp h
        exact .inl ⟨e, s₁, by rwa [List.append_nil], rfl⟩
    | ok _ =>
        obtain ⟨middle, ⟨result, s₂⟩, _, rfl, hbody, hrest⟩ := Dialogue.path_bind_iff.mp h
        obtain ⟨last, ⟨ended, s₃⟩, _, rfl, hlogoff, hend⟩ := Dialogue.path_bind_iff.mp hrest
        obtain ⟨rfl, rfl⟩ := Dialogue.path_pure_iff.mp hend
        exact .inr ⟨first, s₁, middle, result, s₂, last, ended, s₃, by rw [List.append_nil],
          hlogon, hbody, hlogoff, rfl⟩
  · rintro (⟨e, s₁, hlogon, rfl⟩ |
      ⟨first, s₁, middle, result, s₂, last, ended, s₃, rfl, hlogon, hbody, hlogoff, rfl⟩)
    · exact ⟨events, _, [], by rw [List.append_nil], hlogon, .done _⟩
    · refine ⟨first, _, _, rfl, hlogon, ?_⟩
      refine Dialogue.path_bind_iff.mpr ⟨middle, _, last, rfl, hbody, ?_⟩
      exact Dialogue.path_bind_iff.mpr ⟨last, _, [], by rw [List.append_nil], hlogoff, .done _⟩

/-- A scope calls for mastership, and releases it after its body in whatever state that leaves the
session. -/
theorem runs_withMastership_iff {body : SessionM (Dialogue ν) α} :
    Runs (withMastership body) s events out ↔
      (s.state ≠ .loggedOn ∧ events = [] ∧
        out = (.error (.wrongState "acquire mastership" "LoggedOn" s.state.name), s)) ∨
      (s.state = .loggedOn ∧ ∃ e, events = [.call .requestMastership (.error e)] ∧
        out = (.error e, s)) ∨
      (s.state = .loggedOn ∧ ∃ middle result s₁ released,
        events = .call .requestMastership (.ok ()) ::
          (middle ++ [Event.call .releaseMastership released]) ∧
        Runs body { s with state := .mastershipHeld } middle (result, s₁) ∧
        out = (scopeResult result released, { s₁ with state := .loggedOn })) := by
  unfold withMastership
  rw [runs_inState_iff]
  constructor
  · rintro (⟨hstate, h⟩ | ⟨hstate, rfl, rfl⟩)
    · obtain ⟨answer, rest, rfl, hrest⟩ := Dialogue.path_call_bind_iff.mp h
      cases answer with
      | error e =>
          obtain ⟨rfl, rfl⟩ := Dialogue.path_pure_iff.mp hrest
          exact .inr (.inl ⟨hstate, e, rfl, rfl⟩)
      | ok _ =>
          obtain ⟨middle, ⟨result, s₁⟩, _, rfl, hbody, hlast⟩ := Dialogue.path_bind_iff.mp hrest
          obtain ⟨released, _, rfl, hend⟩ := Dialogue.path_call_bind_iff.mp hlast
          obtain ⟨rfl, rfl⟩ := Dialogue.path_pure_iff.mp hend
          exact .inr (.inr ⟨hstate, middle, result, s₁, released, rfl, hbody, rfl⟩)
    · exact .inl ⟨hstate, rfl, rfl⟩
  · rintro (⟨hstate, rfl, rfl⟩ | ⟨hstate, e, rfl, rfl⟩ |
      ⟨hstate, middle, result, s₁, released, rfl, hbody, rfl⟩)
    · exact .inr ⟨hstate, rfl, rfl⟩
    · exact .inl ⟨hstate, Dialogue.path_call_bind_iff.mpr ⟨.error e, [], rfl, .done _⟩⟩
    · refine .inl ⟨hstate, Dialogue.path_call_bind_iff.mpr ⟨.ok (), _, rfl, ?_⟩⟩
      refine Dialogue.path_bind_iff.mpr ⟨middle, _, _, rfl, hbody, ?_⟩
      exact Dialogue.path_call_bind_iff.mpr ⟨released, [], rfl, .done _⟩

end Session

end RobotCell
