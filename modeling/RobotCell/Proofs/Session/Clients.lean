import Mathlib.Data.List.Induction
import Mathlib.Logic.Function.Basic
import RobotCell.Proofs.Controller.Effect
import RobotCell.Proofs.Session.Mastership

/-!
# RobotCell.Proofs.Session.Clients

Clients that share a controller.

Each client runs a script of its own, and the controller answers one call at a time, in any order
(`Cell.after`).  The controller does not know who calls: a release or a logoff takes mastership from
whoever has it.  Sessions exclude one another just as long as no client makes such a call while
another one holds mastership, and none is granted it between the two calls by which another one logs
off from within a scope (`Cell.Disturbs`).

* `Cell.Exclusive.step`: every other turn keeps the sessions apart;
* `Cell.not_disturbs`: where they are apart after a turn, it was no such turn.
-/

namespace RobotCell

/-! ## A session between two events -/

/-- Where a client is with its session. -/
inductive Phase where
  /-- Nothing is under way. -/
  | steady (s : Session)
  /-- A scope is about to release mastership. -/
  | leaving (s : Session)
  /-- A logoff from within a scope has released mastership, and is about to log off. -/
  | ending (s : Session)

namespace Phase

def session : Phase → Session
  | .steady s | .leaving s | .ending s => s

/-- The session is in `mastershipHeld`. -/
def isHeld (p : Phase) : Bool := p.session.state = .mastershipHeld

/-- The session is in `mastershipHeld`, and its client has asked for neither a release nor a logoff
since. -/
def holds : Phase → Bool
  | .steady s | .leaving s => s.state = .mastershipHeld
  | .ending _ => false

/-- The session is in `mastershipHeld` although its client has asked for a release. -/
def lags (p : Phase) : Bool := p.isHeld && !p.holds

/-- The phase after a release: a scope has ended, or a logoff goes on. -/
def released : Phase → Phase
  | .leaving s => .steady { s with state := .loggedOn }
  | .steady s | .ending s => .ending s

/-- The phase after a scope has said that it ends. -/
def left : Phase → Phase
  | .steady s | .leaving s => .leaving s
  | .ending s => .ending s

/-- The phase after an event. -/
def next (p : Phase) : Event Remark → Phase
  | .call (.logon handle _) (.ok _) => .steady (p.session.loggedOnTo handle)
  | .call .requestMastership (.ok _) => .steady { p.session with state := .mastershipHeld }
  | .call .releaseMastership _ => p.released
  | .call .logoff _ => .steady p.session.ended
  | .remark (.leaving _) => p.left
  | _ => p

/-- The phase after a history that began with a session. -/
def after (start : Session) (history : List (Event Remark)) : Phase :=
  history.foldl next (.steady start)

theorem after_concat (start : Session) (history : List (Event Remark)) (e : Event Remark) :
    after start (history ++ [e]) = (after start history).next e := by
  simp [after]

variable {p : Phase} {e : Event Remark}

/-- A client that is taken to hold mastership holds it or lags behind. -/
theorem holds_or_lags (h : p.isHeld = true) : p.holds = true ∨ p.lags = true := by
  cases hholds : p.holds <;> simp [lags, h, hholds]

/-- What an event does to a phase. -/
inductive Moves (p : Phase) : Event Remark → Phase → Prop where
  | logon (handle : ControllerHandle) (user : Credentials) :
      Moves p (.call (.logon handle user) (.ok ())) (.steady (p.session.loggedOnTo handle))
  | grant : Moves p (.call .requestMastership (.ok ()))
      (.steady { p.session with state := .mastershipHeld })
  | release (a : Except Failure Unit) : Moves p (.call .releaseMastership a) p.released
  | logoff (a : Except Failure Unit) : Moves p (.call .logoff a) (.steady p.session.ended)
  | leaving (s : Session) : Moves p (.remark (.leaving s)) p.left
  | same (e : Event Remark) (hgrant : e.isGrant = false) (hyield : e.isYield = false) : Moves p e p

/-- Every event moves the phase of a client. -/
theorem moves_next (p : Phase) (e : Event Remark) : p.Moves e (p.next e) := by
  cases e with
  | remark r =>
      cases r with
      | leaving s => exact .leaving s
      | control s => exact .same _ rfl rfl
      | loggedOff => exact .same _ rfl rfl
  | call c answer =>
      cases c with
      | logon handle user =>
          cases answer with
          | error e => exact .same _ rfl rfl
          | ok _ => exact .logon handle user
      | requestMastership =>
          cases answer with
          | error e => exact .same _ rfl rfl
          | ok _ => exact .grant
      | releaseMastership => exact .release answer
      | logoff => exact .logoff answer
      | _ => exact .same _ rfl rfl

variable {p' : Phase}

/-- A grant puts the session into `mastershipHeld`. -/
theorem Moves.isHeld_of_isGrant (h : p.Moves e p') (hgrant : e.isGrant = true) :
    p'.isHeld = true := by
  cases h with
  | grant => rfl
  | same _ hno => cases hno.symm.trans hgrant
  | logon | release | logoff | leaving => cases hgrant

/-- Giving mastership back is asking for it. -/
theorem Moves.holds_of_isYield (h : p.Moves e p') (hyield : e.isYield = true) :
    p'.holds = false := by
  cases h with
  | release => cases p <;> rfl
  | logoff => rfl
  | same _ _ hno => cases hno.symm.trans hyield
  | logon | grant | leaving => cases hyield

/-- A session that is in `mastershipHeld` after anything but a grant was in it before. -/
theorem Moves.isHeld_before (h : p.Moves e p') (hgrant : e.isGrant = false)
    (hheld : p'.isHeld = true) : p.isHeld = true := by
  cases h with
  | grant => cases hgrant
  | release => cases p <;> first | exact hheld | cases hheld
  | leaving => cases p <;> exact hheld
  | same => exact hheld
  | logon | logoff => cases hheld

/-- Mastership that was not granted just now was held before. -/
theorem Moves.holds_before (h : p.Moves e p') (hgrant : e.isGrant = false)
    (hholds : p'.holds = true) : p.holds = true := by
  cases h with
  | grant => cases hgrant
  | release => cases p <;> cases hholds
  | leaving => cases p <;> exact hholds
  | same => exact hholds
  | logon | logoff => cases hholds

end Phase

/-! ## Phases and sessions -/

/-- An event shows the session of a phase, if it shows a session. -/
def Event.Shows (p : Phase) : Event Remark → Prop
  | .remark (.control s) | .remark (.leaving s) => p = .steady s
  | _ => True

/-- A history has led from a session into a phase, and has shown the session on its way. -/
structure Tracks (start : Session) (history : List (Event Remark)) (p : Phase) : Prop where
  shows : Throughout (fun before e => e.Shows (.after start before)) history
  after : Phase.after start history = p

namespace Tracks

variable {start s s' : Session} {history events : List (Event Remark)} {p : Phase}
  {e : Event Remark}

theorem nil (start : Session) : Tracks start [] (.steady start) := ⟨throughout_nil, rfl⟩

/-- An event that the phase shows is tracked. -/
theorem concat (h : Tracks start history p) (hshows : e.Shows p) :
    Tracks start (history ++ [e]) (p.next e) where
  shows := by
    rw [throughout_concat_iff]
    exact ⟨h.shows, by rw [h.after]; exact hshows⟩
  after := by rw [Phase.after_concat, h.after]

/-- A call that an operation makes moves no phase. -/
theorem concat_call {c : Call} {answer : Except Failure c.Answer}
    (h : Tracks start history (.steady s)) (hc : c.AllowedIn s.state) :
    Tracks start (history ++ [.call c answer]) (.steady s) := by
  have hnext : (Phase.steady s).next (.call c answer) = .steady s := by
    cases c <;> first | rfl | simp [Call.AllowedIn, Call.isRead, Call.isWrite] at hc
  have hcalled := h.concat (e := .call c answer) trivial
  rwa [hnext] at hcalled

/-- Every step goes from a session to a session, and shows the one that there is. -/
theorem step (h : Tracks start history (.steady s)) (hstep : SessionStep s events s') :
    Tracks start (history ++ events) (.steady s') := by
  cases hstep with
  | control => exact h.concat rfl
  | call c answer hallowed => exact h.concat_call hallowed
  | loggedOff | logonFails | requestFails => exact h.concat trivial
  | logon | logoff | request => exact h.concat trivial
  | logoffInScope a b =>
      have hended := (h.concat (e := .call .releaseMastership a) trivial).concat
        (e := .call .logoff b) trivial
      rwa [List.append_assoc] at hended
  | leave a =>
      have hleft := ((h.concat (e := .remark (.leaving s)) rfl).concat
        (e := .call .releaseMastership a) trivial).concat
        (e := .remark (.control { s with state := .loggedOn })) rfl
      rwa [List.append_assoc, List.append_assoc] at hleft

end Tracks

/-- **Phases are where sessions are**: a run of a script shows the session of its phase, and ends in
the session that its phase ends in. -/
theorem Script.tracks {α : Type} {p : Script α} {s s' : Session} {events : List (Event Remark)}
    {result : Except Failure α} (h : Session.Runs p.run s events (result, s')) :
    Tracks s events (.steady s') :=
  (p.run_steps h).preserves (I := fun history s' => Tracks s history (.steady s'))
    (fun hI hstep => hI.step hstep) (.nil s)

/-! ## Calls and mastership -/

namespace Simulator

/-- One event at a controller: a call that it answers, or a remark. -/
inductive Takes (workspace : Files) (sim : Simulator) : Event Remark → Simulator → Prop where
  | call {c : Call} {out : Except Failure c.Answer × Simulator}
      (h : respond workspace c sim = out) : Takes workspace sim (.call c out.1) out.2
  | remark (r : Remark) : Takes workspace sim (.remark r) sim

namespace Takes

variable {workspace : Files} {sim sim' : Simulator} {e : Event Remark}

/-- Mastership is granted when nobody has it. -/
theorem of_isGrant (h : Takes workspace sim e sim') (hgrant : e.isGrant = true) :
    sim.mastership = false ∧ sim'.mastership = true := by
  cases h with
  | remark r => cases hgrant
  | @call c out h =>
      cases c with
      | requestMastership =>
          have houtcome := respond_outcome workspace .requestMastership sim
          rw [h] at houtcome
          cases houtcome with
          | failed e => cases hgrant
          | succeeded a heffect =>
              cases heffect with
              | request hlogged hfree => exact ⟨hfree, rfl⟩
              | read hread => cases hread
      | _ => cases hgrant

/-- Mastership that is given back is free, whoever had it and whatever the call answers. -/
theorem of_isYield (h : Takes workspace sim e sim') (hyield : e.isYield = true) :
    sim'.mastership = false := by
  cases h with
  | remark r => cases hyield
  | @call c out h =>
      cases c with
      | logoff => rw [← h]; rfl
      | releaseMastership =>
          have houtcome := respond_outcome workspace .releaseMastership sim
          rw [h] at houtcome
          cases houtcome with
          | failed e => exact Bool.and_false _
          | succeeded a heffect =>
              cases heffect with
              | release => rfl
              | read hread => cases hread
      | _ => cases hyield

/-- Nothing else touches mastership. -/
theorem mastership_eq (h : Takes workspace sim e sim') (hgrant : e.isGrant = false)
    (hyield : e.isYield = false) : sim'.mastership = sim.mastership := by
  cases h with
  | remark r => rfl
  | @call c out h =>
      have houtcome := respond_outcome workspace c sim
      rw [h] at houtcome
      cases houtcome with
      | failed e =>
          have hrelease : c.isRelease = false := by
            cases c <;> first | rfl | cases hyield
          simp [afterFailure, hrelease]
      | succeeded a heffect =>
          cases heffect with
          | request => cases hgrant
          | release | logoff => cases hyield
          | _ => rfl

end Takes

end Simulator

/-! ## Clients -/

/-- A client: the session it began with, what is left of its script, and what it has seen. -/
structure Client (α : Type) where
  start : Session
  rest : ScriptM (Except Failure α × Session)
  seen : List (Event Remark) := []

namespace Client

variable {α : Type}

/-- A client with a new session. -/
def new (script : Script α) (user : Credentials) (task : String) : Client α :=
  { start := { user, task }, rest := script.run { user, task } }

def phase (c : Client α) : Phase := .after c.start c.seen

/-- The client after an event. -/
def saw (c : Client α) (e : Event Remark) (rest : ScriptM (Except Failure α × Session)) :
    Client α :=
  { c with rest, seen := c.seen ++ [e] }

/-- What a client does next at a controller, if its script is not done: the event, the client after
it, and the controller after it. -/
def next? (workspace : Files) (sim : Simulator) (c : Client α) :
    Option (Event Remark × Client α × Simulator) :=
  match c.rest with
  | .done _ => none
  | .ask call next =>
    let (answer, sim) := Simulator.respond workspace call sim
    some (.call call answer, c.saw (.call call answer) (next answer), sim)
  | .tell r next => some (.remark r, c.saw (.remark r) next, sim)

/-- The phase of a client is where its session is: at whatever its script says, and at its end. -/
structure Faithful (c : Client α) : Prop where
  control : ∀ s next, c.rest = .tell (.control s) next → c.phase = .steady s
  leaving : ∀ s next, c.rest = .tell (.leaving s) next → c.phase = .steady s
  finished : ∀ result s, c.rest = .done (result, s) → c.phase = .steady s

/-- What a client has seen is the beginning of a path through its script. -/
def Follows (c : Client α) (script : Script α) : Prop :=
  ∀ events out, c.rest.Path events out → Session.Runs script.run c.start (c.seen ++ events) out

variable {workspace : Files} {sim sim' : Simulator} {c c' : Client α} {e : Event Remark}
  {script : Script α}

/-- What there is to say of an event. -/
structure Goes (workspace : Files) (sim : Simulator) (c : Client α) (e : Event Remark)
    (c' : Client α) (sim' : Simulator) : Prop where
  takes : Simulator.Takes workspace sim e sim'
  phase : c.phase.Moves e c'.phase
  follows : ∀ script, c.Follows script → c'.Follows script

theorem goes_saw {rest : ScriptM (Except Failure α × Session)}
    (htakes : Simulator.Takes workspace sim e sim')
    (hpath : ∀ events out, rest.Path events out → c.rest.Path (e :: events) out) :
    Goes workspace sim c e (c.saw e rest) sim' where
  takes := htakes
  phase := by
    rw [show (c.saw e rest).phase = c.phase.next e from Phase.after_concat c.start c.seen e]
    exact Phase.moves_next c.phase e
  follows script hfollows events out hrest := by
    have hrun := hfollows (e :: events) out (hpath events out hrest)
    rwa [List.append_cons] at hrun

/-- What a client does next is one of its moves. -/
theorem goes_of_next? (h : c.next? workspace sim = some (e, c', sim')) :
    Goes workspace sim c e c' sim' := by
  unfold next? at h
  split at h
  · cases h
  · rename_i call next hrest
    cases h
    refine goes_saw (.call rfl) fun events out hpath => ?_
    rw [hrest]
    exact .ask _ hpath
  · rename_i r next hrest
    cases h
    refine goes_saw (.remark r) fun events out hpath => ?_
    rw [hrest]
    exact .tell hpath

/-- A client that begins follows its script. -/
theorem follows_new (script : Script α) (user : Credentials) (task : String) :
    (new script user task).Follows script := fun _ _ h => h

/-- The phase of a client shows in its next remark. -/
theorem Follows.shows (h : c.Follows script) {r : Remark}
    {next : ScriptM (Except Failure α × Session)} (hrest : c.rest = .tell r next) :
    (Event.remark r).Shows c.phase := by
  -- the script can go on somehow, whatever it does then
  let sim : Simulator := {}
  have hpath := next.path_run (Simulator.respond {}) sim
  have hrun := h _ _ (by rw [hrest]; exact .tell hpath)
  exact (Script.tracks hrun).shows c.seen (.remark r) _ rfl

/-- A client that follows its script is faithful to it. -/
theorem Follows.faithful (h : c.Follows script) : c.Faithful where
  control _ _ hrest := h.shows hrest
  leaving _ _ hrest := h.shows hrest
  finished result s hrest := by
    have hrun := h [] (result, s) (by rw [hrest]; exact .done _)
    rw [List.append_nil] at hrun
    exact (Script.tracks hrun).after

end Client

/-! ## Clients at one controller -/

/-- The turn of a client, with its local tree. -/
structure Turn (ι : Type) where
  client : ι
  workspace : Files := {}

/-- Clients and the controller that they share. -/
structure Cell (ι α : Type) where
  clients : ι → Client α
  sim : Simulator

namespace Cell

variable {ι α : Type}

/-- New clients at a controller in any state. -/
def new (scripts : ι → Script α) (user : ι → Credentials) (task : ι → String) (sim : Simulator) :
    Cell ι α :=
  { clients := fun i => .new (scripts i) (user i) (task i), sim }

def phase (cell : Cell ι α) (i : ι) : Phase := (cell.clients i).phase

/-- No two sessions are in `mastershipHeld`, and the controller holds mastership while one is that
has not asked for its release. -/
structure Exclusive (cell : Cell ι α) : Prop where
  one : ∀ i j, (cell.phase i).isHeld = true → (cell.phase j).isHeld = true → i = j
  granted : ∀ i, (cell.phase i).holds = true → cell.sim.mastership = true

/-- Before the first turn no client holds mastership. -/
theorem exclusive_new (scripts : ι → Script α) (user : ι → Credentials) (task : ι → String)
    (sim : Simulator) : (new scripts user task sim).Exclusive where
  one _ _ h := by cases h
  granted _ h := by cases h

variable [DecidableEq ι]

/-- One client goes on by one event; a client whose script is done stays as it is. -/
def step (cell : Cell ι α) (t : Turn ι) : Cell ι α :=
  match (cell.clients t.client).next? t.workspace cell.sim with
  | none => cell
  | some (_, c, sim) => { clients := Function.update cell.clients t.client c, sim }

def after (cell : Cell ι α) (turns : List (Turn ι)) : Cell ι α := turns.foldl step cell

/-- A client gives mastership back while another one holds it, or is granted mastership while the
session of another one, which has asked for a release, still is in `mastershipHeld`. -/
def Disturbs (cell : Cell ι α) (t : Turn ι) : Prop :=
  ∃ e c sim, (cell.clients t.client).next? t.workspace cell.sim = some (e, c, sim) ∧
    ∃ j, j ≠ t.client ∧ (e.isYield = true ∧ (cell.phase j).holds = true ∨
      e.isGrant = true ∧ (cell.phase j).lags = true)

variable {cell : Cell ι α} {t : Turn ι} {e : Event Remark} {c : Client α} {sim : Simulator}

/-- A client that is done leaves everything as it is. -/
theorem step_of_none (h : (cell.clients t.client).next? t.workspace cell.sim = none) :
    cell.step t = cell := by
  simp only [step, h]

/-- What a turn does when there is an event. -/
theorem step_of_some (h : (cell.clients t.client).next? t.workspace cell.sim = some (e, c, sim)) :
    cell.step t = { clients := Function.update cell.clients t.client c, sim } := by
  simp only [step, h]

section Turn

variable (h : (cell.clients t.client).next? t.workspace cell.sim = some (e, c, sim))
include h

/-- A turn moves the phase of its client. -/
theorem moves_step : (cell.phase t.client).Moves e ((cell.step t).phase t.client) := by
  have hphase := (Client.goes_of_next? h).phase
  rw [step_of_some h]
  simpa [phase] using hphase

/-- Only the client whose turn it is goes on. -/
theorem phase_step_of_ne {j : ι} (hj : j ≠ t.client) : (cell.step t).phase j = cell.phase j := by
  rw [step_of_some h]
  simp [phase, hj]

/-- A turn is answered by the controller. -/
theorem takes_step : Simulator.Takes t.workspace cell.sim e (cell.step t).sim := by
  rw [step_of_some h]
  exact (Client.goes_of_next? h).takes

theorem isHeld_before_step (hgrant : e.isGrant = false) {i : ι}
    (hheld : ((cell.step t).phase i).isHeld = true) : (cell.phase i).isHeld = true := by
  by_cases hi : i = t.client
  · rw [hi] at hheld ⊢
    exact (moves_step h).isHeld_before hgrant hheld
  · rwa [phase_step_of_ne h hi] at hheld

/-- A turn without a grant makes no client hold mastership. -/
theorem holds_before_step (hgrant : e.isGrant = false) {i : ι}
    (hholds : ((cell.step t).phase i).holds = true) : (cell.phase i).holds = true := by
  by_cases hi : i = t.client
  · rw [hi] at hholds ⊢
    exact (moves_step h).holds_before hgrant hholds
  · rwa [phase_step_of_ne h hi] at hholds

end Turn

/-- A turn that disturbs nobody keeps the sessions apart. -/
theorem Exclusive.step (hcell : cell.Exclusive) (ht : ¬cell.Disturbs t) :
    (cell.step t).Exclusive := by
  cases h : (cell.clients t.client).next? t.workspace cell.sim with
  | none =>
      rw [step_of_none h]
      exact hcell
  | some out =>
      obtain ⟨e, c, sim⟩ := out
      cases hgrant : e.isGrant with
      | true =>
          obtain ⟨hfree, hmastership⟩ := (takes_step h).of_isGrant hgrant
          -- nobody held mastership, and no other session still shows it
          have hothers (j : ι) (hheld : ((cell.step t).phase j).isHeld = true) : j = t.client := by
            by_contra hj
            rw [phase_step_of_ne h hj] at hheld
            rcases Phase.holds_or_lags hheld with hholds | hlags
            · cases hfree.symm.trans (hcell.granted j hholds)
            · exact ht ⟨e, c, sim, h, j, hj, .inr ⟨hgrant, hlags⟩⟩
          exact {
            one := fun i j hi hj => (hothers i hi).trans (hothers j hj).symm
            granted := fun _ _ => hmastership }
      | false =>
          refine ⟨fun i j hi hj => hcell.one i j (isHeld_before_step h hgrant hi)
            (isHeld_before_step h hgrant hj), fun i hholds => ?_⟩
          have hbefore := holds_before_step h hgrant hholds
          cases hyield : e.isYield with
          | false =>
              rw [(takes_step h).mastership_eq hgrant hyield]
              exact hcell.granted i hbefore
          | true =>
              have hi : i ≠ t.client := by
                rintro rfl
                have hgiven := (moves_step h).holds_of_isYield hyield
                cases hgiven.symm.trans hholds
              exact absurd ⟨e, c, sim, h, i, hi, .inl ⟨hyield, hbefore⟩⟩ ht

/-- After a turn that disturbs somebody the sessions are not apart. -/
theorem not_disturbs (hcell : (cell.step t).Exclusive) : ¬cell.Disturbs t := by
  rintro ⟨e, c, sim, h, j, hj, ⟨hyield, hholds⟩ | ⟨hgrant, hlags⟩⟩
  · have hfree := (takes_step h).of_isYield hyield
    have hheld := hcell.granted j (by rw [phase_step_of_ne h hj]; exact hholds)
    cases hfree.symm.trans hheld
  · have hmine := (moves_step h).isHeld_of_isGrant hgrant
    have hother : ((cell.step t).phase j).isHeld = true := by
      rw [phase_step_of_ne h hj]
      exact (Bool.and_eq_true_iff.mp hlags).1
    exact hj (hcell.one j t.client hother hmine)

theorem after_concat (cell : Cell ι α) (turns : List (Turn ι)) (t : Turn ι) :
    cell.after (turns ++ [t]) = (cell.after turns).step t := by
  simp [after]

/-- Sessions that are apart at first stay apart as long as no turn disturbs them. -/
theorem exclusive_iff (hcell : cell.Exclusive) (turns : List (Turn ι)) :
    (∀ before, before <+: turns → (cell.after before).Exclusive) ↔
      ∀ before t, before ++ [t] <+: turns → ¬(cell.after before).Disturbs t := by
  constructor
  · intro h before t hprefix
    have hafter := h (before ++ [t]) hprefix
    rw [after_concat] at hafter
    exact not_disturbs hafter
  · intro h before
    induction before using List.reverseRecOn with
    | nil => exact fun _ => hcell
    | append_singleton before t ih =>
        intro hprefix
        rw [after_concat]
        have hbefore : before <+: turns := (List.prefix_append before [t]).trans hprefix
        exact (ih hbefore).step (h before t hprefix)

/-- Every client follows its script. -/
theorem follows_after {scripts : ι → Script α} (h : ∀ i, (cell.clients i).Follows (scripts i))
    (turns : List (Turn ι)) (i : ι) : ((cell.after turns).clients i).Follows (scripts i) := by
  induction turns generalizing cell with
  | nil => exact h i
  | cons t rest ih =>
      refine ih fun j => ?_
      cases hnext : (cell.clients t.client).next? t.workspace cell.sim with
      | none =>
          rw [step_of_none hnext]
          exact h j
      | some out =>
          obtain ⟨e, c, sim⟩ := out
          rw [step_of_some hnext]
          by_cases hj : j = t.client
          · rw [hj]
            simpa using (Client.goes_of_next? hnext).follows _ (h t.client)
          · simpa [hj] using h j

end Cell

/-- **When sessions exclude one another**: new clients run any scripts at a controller in any state,
one call at a time in any order.  At every time no two of their sessions are in `mastershipHeld`,
and the controller holds mastership while one is that has not asked for its release, exactly when no
client gives mastership back while another one holds it, and none is granted it while another one
logs off from within a scope.  Meanwhile the phases of the clients are where their sessions are. -/
theorem sessions_exclusive_iff {ι α : Type} [DecidableEq ι] (scripts : ι → Script α)
    (user : ι → Credentials) (task : ι → String) (sim : Simulator) (turns : List (Turn ι)) :
    let cell := Cell.new scripts user task sim
    ((∀ before, before <+: turns → (cell.after before).Exclusive) ↔
      ∀ before t, before ++ [t] <+: turns → ¬(cell.after before).Disturbs t) ∧
    ∀ i, ((cell.after turns).clients i).Faithful := by
  intro cell
  have hfollows (i : ι) : (cell.clients i).Follows (scripts i) :=
    Client.follows_new (scripts i) (user i) (task i)
  exact ⟨Cell.exclusive_iff (Cell.exclusive_new scripts user task sim) turns,
    fun i => (Cell.follows_after hfollows turns i).faithful⟩

/-- Two clients that hold mastership one after the other do not disturb each other. -/
theorem sessions_exclusive_iff_in_turn :
    let workflow : Script Unit :=
      .withLogon Simulator.handle (.withMastership (.done (.ok ())) .done) .done
    let cell := Cell.new (fun _ => workflow) (fun _ => {}) (fun _ => "T_ROB1") {}
    let turns := List.replicate 10 ⟨false, {}⟩ ++ List.replicate 10 ⟨true, {}⟩
    (∃ before, before <+: turns ∧ ((cell.after before).phase false).holds = true) ∧
      (∃ before, before <+: turns ∧ ((cell.after before).phase true).holds = true) ∧
      (∀ before, before <+: turns → (cell.after before).Exclusive) ∧
      ∀ before t, before ++ [t] <+: turns → ¬(cell.after before).Disturbs t := by
  intro workflow cell turns
  have hprefixes : ∀ n ≤ turns.length,
      (∀ i j, ((cell.after (turns.take n)).phase i).isHeld = true →
        ((cell.after (turns.take n)).phase j).isHeld = true → i = j) ∧
      ∀ i, ((cell.after (turns.take n)).phase i).holds = true →
        (cell.after (turns.take n)).sim.mastership = true := by
    decide +kernel
  have hexclusive (before : List (Turn Bool)) (h : before <+: turns) :
      (cell.after before).Exclusive := by
    obtain ⟨hone, hgranted⟩ := hprefixes before.length h.length_le
    rw [← List.prefix_iff_eq_take.mp h] at hone hgranted
    exact ⟨hone, hgranted⟩
  have hquiet := (sessions_exclusive_iff (fun _ => workflow) (fun _ => {}) (fun _ => "T_ROB1") {}
    turns).1.mp hexclusive
  exact ⟨⟨turns.take 4, List.take_prefix 4 turns, by decide +kernel⟩,
    ⟨turns.take 14, List.take_prefix 14 turns, by decide +kernel⟩, hexclusive, hquiet⟩

/-- A client logs on and off again while another one is in a scope, which leaves that one without
mastership; when it then asks for mastership itself, both sessions are in `mastershipHeld`. -/
theorem sessions_both_held :
    let scope : Script Unit := .withMastership (.done (.ok ())) .done
    let first : Script Unit := .logon Simulator.handle fun _ => scope
    let second : Script Unit := .logon Simulator.handle fun _ =>
      .logoff (.logon Simulator.handle fun _ => scope)
    let cell := Cell.new (fun second? => if second? then second else first) (fun _ => {})
      (fun _ => "T_ROB1") {}
    let turns := List.replicate 4 ⟨false, {}⟩ ++ List.replicate 3 ⟨true, {}⟩
    let later := List.replicate 5 ⟨true, {}⟩
    (cell.after turns).sim.mastership = false ∧ ((cell.after turns).phase false).holds = true ∧
      ((cell.after (turns ++ later)).phase false).isHeld = true ∧
      ((cell.after (turns ++ later)).phase true).isHeld = true := by
  decide +kernel

end RobotCell
