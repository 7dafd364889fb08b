import RobotCell.Proofs.Session.Step

/-!
# RobotCell.Proofs.Session.Scope

What a mastership scope does.

A script that starts with mastership and does not log off stays where it is (`Script.stays`): logons
and further scopes are refused, and operations leave the session alone.  So nothing in the body of a
scope can give mastership back, or ask for it again, and the scope ends on the session it began on,
whatever its body and its release come to (`mastership_scope`).
-/

namespace RobotCell

variable {α β : Type}

/-- The session in a scope that begins on it. -/
def Session.holding (s : Session) : Session := { s with state := .mastershipHeld }

/-- A script as the body of a scope. -/
def Script.inScope (body : Script α) : SessionM ScriptM α := fun s => do
  Dialogue.remark (.control s)
  let (result, s) ← body.run s
  Dialogue.remark (.leaving s)
  return (result, s)

/-- A call that an operation may make is work. -/
theorem Call.AllowedIn.isWork {c : Call} {state : SessionState} {ν : Type} (h : c.AllowedIn state)
    (answer : Except Failure c.Answer) : (Event.call c answer : Event ν).isWork = true := by
  rcases h with ⟨hread, -⟩ | ⟨hwrite, -⟩
  · simp [Event.isWork, hread]
  · simp [Event.isWork, hwrite]

namespace Session

variable {s : Session} {events : List (Event Remark)}

/-! ## Refusals -/

/-- A logon is refused while mastership is held. -/
theorem refused_logon {handle : ControllerHandle} {out : Except Failure Unit × Session}
    (hs : s.state = .mastershipHeld)
    (h : Runs (logon handle : SessionM ScriptM Unit) s events out) :
    events = [] ∧ ∃ e, out = (.error e, s) := by
  rcases runs_logon_iff.mp h with ⟨-, rfl, rfl⟩ | ⟨hstate, -⟩ | ⟨hstate, -⟩
  · exact ⟨rfl, _, rfl⟩
  · cases hs.symm.trans hstate
  · cases hs.symm.trans hstate

theorem refused_withLogon {handle : ControllerHandle} {body : SessionM ScriptM α}
    {out : Except Failure α × Session} (hs : s.state = .mastershipHeld)
    (h : Runs (withLogon handle body) s events out) : events = [] ∧ ∃ e, out = (.error e, s) := by
  rcases runs_withLogon_iff.mp h with ⟨e, s₁, hlogon, rfl⟩ | ⟨_, _, _, _, _, _, _, _, _, hlogon, -⟩
  · obtain ⟨rfl, _, hout⟩ := refused_logon hs hlogon
    cases hout
    exact ⟨rfl, e, rfl⟩
  · obtain ⟨-, _, hout⟩ := refused_logon hs hlogon
    cases hout

/-- A further scope is refused, without a call, and its client goes on in the outer one. -/
theorem runs_nested_iff {nested : Script β} {next : Except Failure β → Script α}
    {out : Except Failure α × Session} (hs : s.state = .mastershipHeld) :
    Runs (Script.withMastership nested next).run s events out ↔
      ∃ rest, events = .remark (.control s) :: rest ∧
        Runs (next (.error (.wrongState "acquire mastership" "LoggedOn" "MastershipHeld"))).run s
          rest out := by
  show Dialogue.Path (Session.withMastership nested.inScope s >>= fun out => do
    Dialogue.remark (.control out.2)
    (next out.1).run out.2) events out ↔ _
  have hrefused (first : List (Event Remark)) (r : Except Failure β × Session) :
      Dialogue.Path (Session.withMastership nested.inScope s) first r ↔ first = [] ∧
        r = (.error (.wrongState "acquire mastership" "LoggedOn" "MastershipHeld"), s) := by
    refine runs_withMastership_iff.trans ?_
    simp [hs, SessionState.name]
  rw [Dialogue.path_bind_iff]
  constructor
  · rintro ⟨first, r, rest, rfl, hscope, hrest⟩
    obtain ⟨rfl, rfl⟩ := (hrefused first r).mp hscope
    exact Dialogue.path_remark_bind_iff.mp hrest
  · intro h
    exact ⟨[], _, events, rfl, (hrefused [] _).mpr ⟨rfl, rfl⟩,
      Dialogue.path_remark_bind_iff.mpr h⟩

end Session

/-! ## Bodies of scopes -/

/-- What a script may show while its session stays where it is: work, and the session. -/
def Event.Stays (s : Session) (e : Event Remark) : Prop :=
  e.isWork = true ∨ e = .remark (.control s)

theorem Event.stays_control {s : Session} {rest : List (Event Remark)}
    (h : ∀ e ∈ rest, e.Stays s) : ∀ e ∈ Event.remark (Remark.control s) :: rest, e.Stays s :=
  List.forall_mem_cons.mpr ⟨.inr rfl, h⟩

/-- **A script with mastership that does not log off stays where it is**, and neither gives
mastership back nor asks for it again. -/
theorem Script.stays (p : Script α) {s s' : Session} {events : List (Event Remark)}
    {result : Except Failure α} (hs : s.state = .mastershipHeld)
    (hoff : .remark .loggedOff ∉ events) (h : Session.Runs p.run s events (result, s')) :
    s' = s ∧ ∀ e ∈ events, e.Stays s := by
  -- Every part of the script begins on the session of the whole, so that `s` stays fixed.
  induction p generalizing events s' with
  | done r =>
      obtain ⟨rfl, hout⟩ := Dialogue.path_pure_iff.mp h
      cases hout
      exact ⟨rfl, List.forall_mem_nil _⟩
  | look next ih => exact ih s hoff h
  | perform o next ih =>
      obtain ⟨first, ⟨r, s₁⟩, _, rfl, ho, hrest⟩ := Dialogue.path_bind_iff.mp h
      obtain ⟨rest, rfl, hnext⟩ := Dialogue.path_remark_bind_iff.mp hrest
      obtain ⟨rfl, hcalls⟩ := o.confined s _ _ _ ho
      obtain ⟨hsame, hstays⟩ := ih r (fun hmem =>
        hoff (List.mem_append_right first (List.mem_cons_of_mem _ hmem))) hnext
      refine ⟨hsame, List.forall_mem_append.mpr ⟨fun e he => ?_, Event.stays_control hstays⟩⟩
      obtain ⟨c, answer, rfl, hallowed⟩ := hcalls e he
      exact .inl (hallowed.isWork answer)
  | logon handle next ih =>
      obtain ⟨_, ⟨r, s₁⟩, _, rfl, hlogon, hrest⟩ := Dialogue.path_bind_iff.mp h
      obtain ⟨rest, rfl, hnext⟩ := Dialogue.path_remark_bind_iff.mp hrest
      obtain ⟨rfl, e, hout⟩ := Session.refused_logon hs hlogon
      cases hout
      obtain ⟨hsame, hstays⟩ := ih _ (fun hmem => hoff (List.mem_cons_of_mem _ hmem)) hnext
      exact ⟨hsame, Event.stays_control hstays⟩
  | logoff next ih =>
      obtain ⟨first, _, _, rfl, -, hrest⟩ := Dialogue.path_bind_iff.mp h
      obtain ⟨rest, rfl, -⟩ := Dialogue.path_remark_bind_iff.mp hrest
      exact absurd (List.mem_append_right first List.mem_cons_self) hoff
  | withLogon handle body next _ ih =>
      obtain ⟨_, ⟨r, s₁⟩, _, rfl, hscope, hrest⟩ := Dialogue.path_bind_iff.mp h
      obtain ⟨rest, rfl, hnext⟩ := Dialogue.path_remark_bind_iff.mp hrest
      obtain ⟨rfl, e, hout⟩ := Session.refused_withLogon hs hscope
      cases hout
      obtain ⟨hsame, hstays⟩ := ih _ (fun hmem => hoff (List.mem_cons_of_mem _ hmem)) hnext
      exact ⟨hsame, Event.stays_control hstays⟩
  | withMastership body next _ ih =>
      obtain ⟨rest, rfl, hnext⟩ := (Session.runs_nested_iff hs).mp h
      obtain ⟨hsame, hstays⟩ := ih _ (fun hmem => hoff (List.mem_cons_of_mem _ hmem)) hnext
      exact ⟨hsame, Event.stays_control hstays⟩

/-! ## Scopes -/

/-- A scope that has been granted mastership: the events and the outcome of the one run of its body
and of the release after it. -/
structure ScopeRun (body : Script α) (s : Session) (events : List (Event Remark))
    (out : Except Failure α × Session) (inner : List (Event Remark)) (result : Except Failure α)
    (released : Except Failure Unit) : Prop where
  events_eq : events = .call .requestMastership (.ok ()) :: .remark (.control s.holding) ::
    (inner ++ [.remark (.leaving s.holding), .call .releaseMastership released])
  runs : Session.Runs body.run s.holding inner (result, s.holding)
  /-- Neither mastership nor the logon is asked for or given up in the body. -/
  stays : ∀ e ∈ inner, e.Stays s.holding
  session : out.2 = s
  failed : ∀ e, result = .error e → out.1 = .error e
  notReleased : ∀ a e, result = .ok a → released = .error e → out.1 = .error e
  succeeded : ∀ a, result = .ok a → released = .ok () → out.1 = .ok a

namespace Session

variable {s : Session} {body : Script α} {events : List (Event Remark)}
  {out : Except Failure α × Session}

/-- A scope ends on the session it began on. -/
theorem loggedOn_holding (hs : s.state = .loggedOn) :
    { s.holding with state := .loggedOn } = s := by
  obtain ⟨user, task, state, handle⟩ := s
  cases hs
  rfl

theorem runs_inScope_iff {s' : Session} {result : Except Failure α} :
    Runs body.inScope s events (result, s') ↔ ∃ inner,
      events = .remark (.control s) :: (inner ++ [.remark (.leaving s')]) ∧
        Runs body.run s inner (result, s') := by
  constructor
  · intro h
    obtain ⟨_, rfl, hrun⟩ := Dialogue.path_remark_bind_iff.mp h
    obtain ⟨inner, ⟨r, s₁⟩, _, rfl, hinner, hleave⟩ := Dialogue.path_bind_iff.mp hrun
    obtain ⟨_, rfl, hend⟩ := Dialogue.path_remark_bind_iff.mp hleave
    obtain ⟨rfl, hout⟩ := Dialogue.path_pure_iff.mp hend
    cases hout
    exact ⟨inner, rfl, hinner⟩
  · rintro ⟨inner, rfl, hinner⟩
    refine Dialogue.path_remark_bind_iff.mpr ⟨_, rfl, ?_⟩
    refine Dialogue.path_bind_iff.mpr ⟨inner, _, _, rfl, hinner, ?_⟩
    exact Dialogue.path_remark_bind_iff.mpr ⟨[], rfl, .done _⟩

end Session

/-- A failure of the body comes first, then one of the release. -/
theorem eq_scopeResult_iff {result final : Except Failure α} {released : Except Failure Unit} :
    final = Session.scopeResult result released ↔
      (∀ e, result = .error e → final = .error e) ∧
      (∀ a e, result = .ok a → released = .error e → final = .error e) ∧
      ∀ a, result = .ok a → released = .ok () → final = .ok a := by
  cases result with
  | error e => simp [Session.scopeResult]
  | ok a => cases released <;> simp [Session.scopeResult]

theorem scopeRun_iff {s : Session} {body : Script α} {events inner : List (Event Remark)}
    {out : Except Failure α × Session} {result : Except Failure α}
    {released : Except Failure Unit} :
    ScopeRun body s events out inner result released ↔
      events = .call .requestMastership (.ok ()) :: .remark (.control s.holding) ::
        (inner ++ [.remark (.leaving s.holding), .call .releaseMastership released]) ∧
      Session.Runs body.run s.holding inner (result, s.holding) ∧
      (∀ e ∈ inner, e.Stays s.holding) ∧ out = (Session.scopeResult result released, s) := by
  rw [Prod.ext_iff, eq_scopeResult_iff]
  constructor
  · rintro ⟨hevents, hbody, hstays, hsession, hfailed, hnotReleased, hsucceeded⟩
    exact ⟨hevents, hbody, hstays, ⟨hfailed, hnotReleased, hsucceeded⟩, hsession⟩
  · rintro ⟨hevents, hbody, hstays, ⟨hfailed, hnotReleased, hsucceeded⟩, hsession⟩
    exact ⟨hevents, hbody, hstays, hsession, hfailed, hnotReleased, hsucceeded⟩

/-- **What a mastership scope does**, around any script that does not log off and whatever the calls
answer.  Without a logon it is refused; without a grant its body does not run; and otherwise the
body runs once, with mastership, which is released once after it, and the session is as before.
Scopes in the body are refused, and the body goes on. -/
theorem mastership_scope {body : Script α} {s : Session} {events : List (Event Remark)}
    {out : Except Failure α × Session} (hoff : .remark .loggedOff ∉ events) :
    (Session.Runs (Session.withMastership body.inScope) s events out ↔
      (s.state ≠ .loggedOn ∧ events = [] ∧
        out = (.error (.wrongState "acquire mastership" "LoggedOn" s.state.name), s)) ∨
      (s.state = .loggedOn ∧ ∃ e, events = [.call .requestMastership (.error e)] ∧
        out = (.error e, s)) ∨
      (s.state = .loggedOn ∧ ∃ inner result released,
        ScopeRun body s events out inner result released)) ∧
    ∀ {β γ : Type} {nested : Script β} {next : Except Failure β → Script γ}
      {events : List (Event Remark)} {out : Except Failure γ × Session},
      Session.Runs (Script.withMastership nested next).run s.holding events out ↔
        ∃ rest, events = .remark (.control s.holding) :: rest ∧
          Session.Runs
            (next (.error (.wrongState "acquire mastership" "LoggedOn" "MastershipHeld"))).run
            s.holding rest out := by
  refine ⟨?_, Session.runs_nested_iff rfl⟩
  rw [Session.runs_withMastership_iff]
  constructor
  · rintro (hrefused | hdenied | ⟨hs, middle, result, s', released, rfl, hrun, rfl⟩)
    · exact .inl hrefused
    · exact .inr (.inl hdenied)
    · obtain ⟨inner, rfl, hbody⟩ := Session.runs_inScope_iff.mp hrun
      have hinner : .remark .loggedOff ∉ inner := fun hmem => hoff (by simp [hmem])
      obtain ⟨rfl, hstays⟩ := body.stays rfl hinner hbody
      refine .inr (.inr ⟨hs, inner, result, released, scopeRun_iff.mpr ⟨?_, hbody, hstays, ?_⟩⟩)
      · simp [Session.holding]
      · exact congrArg _ (Session.loggedOn_holding hs)
  · rintro (hrefused | hdenied | ⟨hs, inner, result, released, hscope⟩)
    · exact .inl hrefused
    · exact .inr (.inl hdenied)
    · obtain ⟨rfl, hbody, -, rfl⟩ := scopeRun_iff.mp hscope
      refine .inr (.inr ⟨hs, _, result, s.holding, released, ?_,
        Session.runs_inScope_iff.mpr ⟨inner, rfl, hbody⟩, ?_⟩)
      · simp [Session.holding]
      · exact congrArg _ (Session.loggedOn_holding hs).symm

/-- A scope in a scope is refused, and the release of the outer one fails: the refusal comes
first. -/
theorem mastership_scope_nested :
    ∃ s events out, .remark .loggedOff ∉ events ∧ ∃ inner result released,
      ScopeRun (.withMastership (.done (.ok ())) .done : Script Unit) s events out inner result
        released ∧
      out.1 = .error (.wrongState "acquire mastership" "LoggedOn" "MastershipHeld") := by
  have hrun : Session.Runs
      (Session.withMastership (.withMastership (.done (.ok ())) .done : Script Unit).inScope)
      { state := .loggedOn, handle := some Simulator.handle } [
        .call .requestMastership (.ok ()),
        .remark (.control { state := .mastershipHeld, handle := some Simulator.handle }),
        .remark (.control { state := .mastershipHeld, handle := some Simulator.handle }),
        .remark (.leaving { state := .mastershipHeld, handle := some Simulator.handle }),
        .call .releaseMastership (.error (.refused .releaseTimedOut))]
      (.error (.wrongState "acquire mastership" "LoggedOn" "MastershipHeld"),
        { state := .loggedOn, handle := some Simulator.handle }) :=
    Dialogue.path_run (Simulator.respond {}) _
      ({ loggedOn := true, failNextRelease := true } : Simulator)
  rcases (mastership_scope (by simp)).1.mp hrun with ⟨hs, -⟩ | ⟨-, e, hevents, -⟩ |
    ⟨-, inner, result, released, hscope⟩
  · exact absurd rfl hs
  · simp at hevents
  · exact ⟨_, _, _, by simp, inner, result, released, hscope, rfl⟩

end RobotCell
