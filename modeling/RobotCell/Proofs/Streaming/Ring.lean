import RobotCell.Tracking.Window

/-!
# RobotCell.Proofs.Streaming.Ring

Safety of the streaming ring.

Whatever its pointers report, a window only ever moves two counters: the targets fed and the
targets retired, one at a time (`RingMoves`).  A retire stays behind the feeds and a feed stays
within one window of the retires.  Everything that is said of the actions follows from that:

* `RingMoves.feeds`, `RingMoves.retires` — the targets are fed, and retired, in ascending order
  without a gap;
* `RingMoves.takesTurns` — the actions on one slot are feed and retire in turns.

`perform_moves` and `run_moves` say that calls of a window are such moves, and
`streaming_ring_safe` puts the two halves together.
-/

namespace RobotCell

/-! ## Runs of a window -/

/-- What the owner of a window asks of it. -/
inductive WindowCall where
  | prime
  | observe (kind : PointerKind) (row : Nat)
  deriving DecidableEq

namespace StreamingWindow

/-- Carries out one call. -/
def perform (w : StreamingWindow) : WindowCall → Except Overflow Step
  | .prime => w.prime
  | .observe kind row => w.observe kind row

/-- Carries out calls in turn and gathers their actions. -/
def run (w : StreamingWindow) : List WindowCall → Except Overflow Step
  | [] => .ok (w, [])
  | call :: rest => do
    let (w, actions) ← w.perform call
    let (w, more) ← w.run rest
    return (w, actions ++ more)

end StreamingWindow

/-! ## Actions -/

namespace StreamAction

def isFeed : StreamAction → Bool
  | .feed _ _ => true
  | .retire _ _ => false

def slot : StreamAction → Nat
  | .feed slot _ => slot
  | .retire slot _ => slot

end StreamAction

/-- Feeds and retires of one slot come in turns: an empty slot is fed, and a slot is retired of the
target that it holds.  The first argument is what the slot holds. -/
def TakesTurns : Option Nat → List StreamAction → Prop
  | _, [] => True
  | none, .feed _ target :: rest => TakesTurns (some target) rest
  | some held, .retire _ target :: rest => target = held ∧ TakesTurns none rest
  | none, .retire _ _ :: _ => False
  | some _, .feed _ _ :: _ => False

/-! ## The two counters -/

/-- The actions of a ring with `window` slots for `total` targets, and how they move the counters
of the targets fed and retired. -/
inductive RingMoves (window total : Nat) :
    (fed retired : Nat) → List StreamAction → (fed' retired' : Nat) → Prop where
  | stop {fed retired : Nat} : RingMoves window total fed retired [] fed retired
  | feed {fed retired fed' retired' : Nat} {rest : List StreamAction}
      (htotal : fed < total) (hroom : fed < retired + window)
      (hrest : RingMoves window total (fed + 1) retired rest fed' retired') :
      RingMoves window total fed retired (.feed (fed % window) fed :: rest) fed' retired'
  | retire {fed retired fed' retired' : Nat} {rest : List StreamAction}
      (hloaded : retired < fed)
      (hrest : RingMoves window total fed (retired + 1) rest fed' retired') :
      RingMoves window total fed retired (.retire (retired % window) retired :: rest) fed' retired'

namespace RingMoves

variable {window total fed retired fed' retired' fed'' retired'' : Nat}
  {actions more : List StreamAction}

/-- Moves of the ring one after another are moves of the ring. -/
theorem append (h : RingMoves window total fed retired actions fed' retired')
    (hmore : RingMoves window total fed' retired' more fed'' retired'') :
    RingMoves window total fed retired (actions ++ more) fed'' retired'' := by
  induction h with
  | stop => exact hmore
  | feed htotal hroom _ ih => exact .feed htotal hroom (ih hmore)
  | retire hloaded _ ih => exact .retire hloaded (ih hmore)

/-- The bounds that the counters keep. -/
theorem bounds (h : RingMoves window total fed retired actions fed' retired')
    (hloaded : retired ≤ fed) (htotal : fed ≤ total) (hroom : fed ≤ retired + window) :
    retired' ≤ fed' ∧ fed' ≤ total ∧ fed' ≤ retired' + window := by
  induction h with
  | stop => exact ⟨hloaded, htotal, hroom⟩
  | feed ht hr _ ih => exact ih (by omega) (by omega) (by omega)
  | retire hl _ ih => exact ih (by omega) (by omega) (by omega)

/-- The targets fed are the numbers that the counter of feeds passes over. -/
theorem feeds (h : RingMoves window total fed retired actions fed' retired') :
    fed ≤ fed' ∧ actions.filter (·.isFeed) =
      (List.range' fed (fed' - fed)).map fun k => .feed (k % window) k := by
  induction h with
  | stop => simp
  | @feed fed retired fed' retired' rest _ _ _ ih =>
      obtain ⟨hle, hrest⟩ := ih
      have hlen : fed' - fed = (fed' - (fed + 1)) + 1 := by omega
      refine ⟨by omega, ?_⟩
      rw [hlen, List.range'_succ, List.map_cons, ← hrest]
      rfl
  | retire _ _ ih =>
      refine ⟨ih.1, ?_⟩
      rw [← ih.2]
      rfl

/-- The targets retired are the numbers that the counter of retires passes over. -/
theorem retires (h : RingMoves window total fed retired actions fed' retired') :
    retired ≤ retired' ∧ actions.filter (!·.isFeed) =
      (List.range' retired (retired' - retired)).map fun k => .retire (k % window) k := by
  induction h with
  | stop => simp
  | feed _ _ _ ih =>
      refine ⟨ih.1, ?_⟩
      rw [← ih.2]
      rfl
  | @retire fed retired fed' retired' rest _ _ ih =>
      obtain ⟨hle, hrest⟩ := ih
      have hlen : retired' - retired = (retired' - (retired + 1)) + 1 := by omega
      refine ⟨by omega, ?_⟩
      rw [hlen, List.range'_succ, List.map_cons, ← hrest]
      rfl

/-- An action is taken when its number is passed over. -/
theorem mem_iff_of_filter_eq {p : StreamAction → Bool} (act : Nat → StreamAction)
    (hp : ∀ k, p (act k) = true) (hinj : ∀ {j k}, act j = act k → j = k) {first count target : Nat}
    (h : actions.filter p = (List.range' first count).map act) :
    act target ∈ actions ↔ first ≤ target ∧ target < first + count := by
  have hmem : act target ∈ actions ↔ act target ∈ actions.filter p := by
    simp [List.mem_filter, hp]
  rw [hmem, h, List.mem_map]
  constructor
  · rintro ⟨k, hk, heq⟩
    rw [← hinj heq]
    exact List.mem_range'_1.mp hk
  · intro ht
    exact ⟨target, List.mem_range'_1.mpr ht, rfl⟩

/-- The rows that are fed are those between the two counts. -/
theorem feed_mem_iff (h : RingMoves window total fed retired actions fed' retired')
    {target : Nat} :
    .feed (target % window) target ∈ actions ↔ fed ≤ target ∧ target < fed' := by
  obtain ⟨hle, hfeeds⟩ := h.feeds
  rw [mem_iff_of_filter_eq (fun k => .feed (k % window) k) (fun _ => rfl)
    (fun heq => (StreamAction.feed.inj heq).2) hfeeds, Nat.add_sub_cancel' hle]

/-- The rows that are retired are those between the two counts. -/
theorem retire_mem_iff (h : RingMoves window total fed retired actions fed' retired')
    {target : Nat} :
    .retire (target % window) target ∈ actions ↔ retired ≤ target ∧ target < retired' := by
  obtain ⟨hle, hretires⟩ := h.retires
  rw [mem_iff_of_filter_eq (fun k => .retire (k % window) k) (fun _ => rfl)
    (fun heq => (StreamAction.retire.inj heq).2) hretires, Nat.add_sub_cancel' hle]

end RingMoves

/-! ## One slot -/

/-- What a slot holds: its target that is fed and not yet retired, if there is one. -/
def SlotHolds (window fed retired slot : Nat) (held : Option Nat) : Prop :=
  ∀ target, held = some target ↔ retired ≤ target ∧ target < fed ∧ target % window = slot

/-- Targets that are less than one window apart have different slots. -/
theorem mod_ne_of_lt_add {a b window : Nat} (hab : a < b) (hb : b < a + window) :
    a % window ≠ b % window := by
  intro h
  have hdvd : window ∣ b - a := Nat.dvd_of_mod_eq_zero (Nat.sub_mod_eq_zero_of_mod_eq h.symm)
  have hzero : b - a = 0 := Nat.eq_zero_of_dvd_of_lt hdvd (by omega)
  omega

namespace SlotHolds

variable {window fed retired slot : Nat} {held : Option Nat}

/-- The slot of the next target is empty, and then holds that target. -/
theorem feed (h : SlotHolds window fed retired slot held) (hloaded : retired ≤ fed)
    (hroom : fed < retired + window) (hslot : fed % window = slot) :
    held = none ∧ SlotHolds window (fed + 1) retired slot (some fed) := by
  have hempty : ∀ target, retired ≤ target → target < fed → target % window ≠ slot := by
    intro target hge hlt
    rw [← hslot]
    exact mod_ne_of_lt_add hlt (by omega)
  constructor
  · cases held with
    | none => rfl
    | some target =>
        obtain ⟨hge, hlt, hmod⟩ := (h target).mp rfl
        exact absurd hmod (hempty target hge hlt)
  · intro target
    constructor
    · intro heq
      obtain rfl := Option.some.inj heq
      exact ⟨hloaded, Nat.lt_succ_self fed, hslot⟩
    · rintro ⟨hge, hlt, hmod⟩
      have hle : ¬target < fed := fun hlt' => hempty target hge hlt' hmod
      have heq : fed = target := by omega
      rw [heq]

/-- Feeding another slot leaves this one as it is. -/
theorem feed_of_ne (h : SlotHolds window fed retired slot held) (hslot : fed % window ≠ slot) :
    SlotHolds window (fed + 1) retired slot held := by
  intro target
  rw [h target]
  constructor
  · rintro ⟨hge, hlt, hmod⟩
    exact ⟨hge, by omega, hmod⟩
  · rintro ⟨hge, hlt, hmod⟩
    have hne : fed ≠ target := fun heq => hslot (heq ▸ hmod)
    exact ⟨hge, by omega, hmod⟩

/-- The slot of the oldest target holds that target, and is empty without it. -/
theorem retire (h : SlotHolds window fed retired slot held) (hloaded : retired < fed)
    (hroom : fed ≤ retired + window) (hslot : retired % window = slot) :
    held = some retired ∧ SlotHolds window fed (retired + 1) slot none := by
  refine ⟨(h retired).mpr ⟨Nat.le_refl _, hloaded, hslot⟩, fun target => ⟨nofun, ?_⟩⟩
  rintro ⟨hge, hlt, hmod⟩
  exact absurd (hslot.trans hmod.symm) (mod_ne_of_lt_add (by omega) (by omega))

/-- Retiring another slot leaves this one as it is. -/
theorem retire_of_ne (h : SlotHolds window fed retired slot held)
    (hslot : retired % window ≠ slot) : SlotHolds window fed (retired + 1) slot held := by
  intro target
  rw [h target]
  constructor
  · rintro ⟨hge, hlt, hmod⟩
    have hne : retired ≠ target := fun heq => hslot (heq ▸ hmod)
    exact ⟨by omega, hlt, hmod⟩
  · rintro ⟨hge, hlt, hmod⟩
    exact ⟨by omega, hlt, hmod⟩

end SlotHolds

/-- The actions on one slot come in turns, from what the slot holds. -/
theorem RingMoves.takesTurns {window total fed retired fed' retired' slot : Nat}
    {actions : List StreamAction} {held : Option Nat}
    (h : RingMoves window total fed retired actions fed' retired')
    (hheld : SlotHolds window fed retired slot held) (hloaded : retired ≤ fed)
    (hroom : fed ≤ retired + window) :
    TakesTurns held (actions.filter (·.slot = slot)) := by
  induction h generalizing held with
  | stop => cases held <;> trivial
  | @feed fed retired fed' retired' rest _ hfree _ ih =>
      by_cases hslot : fed % window = slot
      · obtain ⟨rfl, hnow⟩ := hheld.feed hloaded hfree hslot
        rw [List.filter_cons_of_pos (by simp [StreamAction.slot, hslot])]
        exact ih hnow (by omega) (by omega)
      · rw [List.filter_cons_of_neg (by simp [StreamAction.slot, hslot])]
        exact ih (hheld.feed_of_ne hslot) (by omega) (by omega)
  | @retire fed retired fed' retired' rest hbehind _ ih =>
      by_cases hslot : retired % window = slot
      · obtain ⟨rfl, hnow⟩ := hheld.retire hbehind hroom hslot
        rw [List.filter_cons_of_pos (by simp [StreamAction.slot, hslot])]
        exact ⟨rfl, ih hnow (by omega) (by omega)⟩
      · rw [List.filter_cons_of_neg (by simp [StreamAction.slot, hslot])]
        exact ih (hheld.retire_of_ne hslot) (by omega) (by omega)

/-! ## Windows move like rings -/

namespace StreamingWindow

/-- The actions move the counters of a window as those of a ring, and nothing else that matters. -/
structure Moves (w : StreamingWindow) (actions : List StreamAction) (w' : StreamingWindow) :
    Prop where
  config_eq : w'.config = w.config
  baseRow_eq : w'.baseRow = w.baseRow
  total_eq : w'.total = w.total
  ring : RingMoves w.config.window w.total w.fed w.retired actions w'.fed w'.retired

namespace Moves

theorem refl (w : StreamingWindow) : w.Moves [] w := ⟨rfl, rfl, rfl, .stop⟩

theorem trans {w w' w'' : StreamingWindow} {actions more : List StreamAction}
    (h : w.Moves actions w') (hmore : w'.Moves more w'') : w.Moves (actions ++ more) w'' := by
  have hring := hmore.ring
  rw [h.config_eq, h.total_eq] at hring
  exact ⟨hmore.config_eq.trans h.config_eq, hmore.baseRow_eq.trans h.baseRow_eq,
    hmore.total_eq.trans h.total_eq, h.ring.append hring⟩

end Moves

variable {w w' : StreamingWindow} {action : StreamAction} {actions : List StreamAction}

/-- Feeding moves the ring while a slot is free and a row is left. -/
theorem feed_moves (h : w.feed = .ok (w', action)) (htotal : w.fed < w.total)
    (hroom : w.fed < w.retired + w.config.window) : w.Moves [action] w' := by
  simp only [feed, bind_eq_ok_iff, checkedAdd_eq_ok_iff, checkedMod_eq_ok_iff] at h
  obtain ⟨next, ⟨_, rfl⟩, slot, ⟨_, rfl⟩, heq⟩ := h
  cases heq
  exact ⟨rfl, rfl, rfl, .feed htotal hroom .stop⟩

/-- Retiring moves the ring while a row is loaded. -/
theorem retire_moves (h : w.retire = .ok (w', action)) (hloaded : w.retired < w.fed) :
    w.Moves [action] w' := by
  simp only [retire, bind_eq_ok_iff, checkedAdd_eq_ok_iff, checkedMod_eq_ok_iff] at h
  obtain ⟨next, ⟨_, rfl⟩, slot, ⟨_, rfl⟩, heq⟩ := h
  cases heq
  exact ⟨rfl, rfl, rfl, .retire hloaded .stop⟩

/-- A loop whose actions are moves while they are due is a sequence of moves. -/
theorem repeatWhile_moves {due : StreamingWindow → Except Overflow Bool}
    {act : StreamingWindow → Except Overflow (StreamingWindow × StreamAction)}
    (hact : ∀ w w' action, due w = .ok true → act w = .ok (w', action) → w.Moves [action] w')
    {bound : Nat} (h : repeatWhile due act bound w = .ok (w', actions)) : w.Moves actions w' := by
  induction bound generalizing w actions with
  | zero =>
      cases h
      exact .refl _
  | succ bound ih =>
      simp only [repeatWhile, bind_eq_ok_iff] at h
      obtain ⟨isDue, hdue, h⟩ := h
      cases isDue with
      | false =>
          cases h
          exact .refl _
      | true =>
          simp only [if_true, bind_eq_ok_iff] at h
          obtain ⟨⟨w₁, action⟩, hfirst, ⟨w₂, rest⟩, hrest, heq⟩ := h
          cases heq
          exact (hact w w₁ action hdue hfirst).trans (ih hrest)

/-- Priming moves the ring. -/
theorem prime_moves (h : w.prime = .ok (w', actions)) : w.Moves actions w' := by
  refine repeatWhile_moves (fun v v' action hdue hfeed => ?_) h
  have hfree : v.fed < min v.total v.config.window := by simpa [primeDue] using hdue
  exact feed_moves hfeed (by omega) (by omega)

/-- A row is due to be retired only if one is loaded. -/
theorem retireDue_lt {position : Nat} (h : w.retireDue position = .ok true) :
    w.retired < w.fed := by
  by_cases hlt : w.retired < w.fed
  · exact hlt
  · simp [retireDue, hlt] at h

/-- A row is due to be fed only if a slot is free and a row is left. -/
theorem feedDue_lt {position : Nat} (h : w.feedDue position = .ok true) :
    w.fed < w.total ∧ w.fed < w.retired + w.config.window := by
  by_cases hc : w.fed < w.total ∧ w.config.window ≤ w.fed
  · simp only [feedDue, hc, and_self, if_true, bind_eq_ok_iff, checkedSub_of_le] at h
    obtain ⟨before, hbefore, h⟩ := h
    cases hbefore
    by_cases hlt : w.fed - w.config.window < w.retired
    · exact ⟨hc.1, by omega⟩
    · simp [hlt, pure, Except.pure] at h
  · simp [feedDue, hc] at h

/-- Every observation moves the ring. -/
theorem observe_moves {kind : PointerKind} {row : Nat}
    (h : w.observe kind row = .ok (w', actions)) : w.Moves actions w' := by
  unfold observe at h
  cases hoffset : w.offset? row with
  | none =>
      rw [hoffset] at h
      cases h
      exact .refl _
  | some offset =>
      rw [hoffset] at h
      cases kind with
      | program =>
          simp only [bind_eq_ok_iff] at h
          obtain ⟨⟨program, position⟩, _, h⟩ := h
          have hmoves := repeatWhile_moves
            (fun v v' action hdue hact => retire_moves hact (retireDue_lt hdue)) h
          exact ⟨hmoves.1, hmoves.2, hmoves.3, hmoves.4⟩
      | motion =>
          simp only [bind_eq_ok_iff] at h
          obtain ⟨⟨motion, position⟩, _, h⟩ := h
          have hmoves := repeatWhile_moves
            (fun v v' action hdue hact => feed_moves hact (feedDue_lt hdue).1 (feedDue_lt hdue).2) h
          exact ⟨hmoves.1, hmoves.2, hmoves.3, hmoves.4⟩

/-- Every call, whatever its row, moves the window like a ring. -/
theorem perform_moves {call : WindowCall} (h : w.perform call = .ok (w', actions)) :
    w.Moves actions w' := by
  cases call with
  | prime => exact prime_moves h
  | observe kind row => exact observe_moves h

/-- So do any calls one after another. -/
theorem run_moves {calls : List WindowCall} (h : w.run calls = .ok (w', actions)) :
    w.Moves actions w' := by
  induction calls generalizing w actions with
  | nil =>
      cases h
      exact .refl _
  | cons call rest ih =>
      simp only [run, bind_eq_ok_iff] at h
      obtain ⟨⟨w₁, first⟩, hfirst, ⟨w₂, more⟩, hmore, heq⟩ := h
      cases heq
      exact (perform_moves hfirst).trans (ih hmore)

/-- A new window is empty. -/
theorem ofConfig_eq_ok {c : WindowConfig} {baseRow total : Nat}
    (h : ofConfig c baseRow total = .ok w) : w = { config := c, baseRow, total } := by
  unfold ofConfig at h
  cases hvalid : c.validate with
  | error e => rw [hvalid] at h; contradiction
  | ok _ => rw [hvalid] at h; cases h; rfl

end StreamingWindow

/-! ## Safety -/

/-- **Safety of the streaming ring**: whatever is called in whatever order, the targets retired stay
behind the targets fed by at most one window, every target is fed once and retired once, in
ascending order, each slot is fed and retired in turns, and the window is complete when every target
has been fed and retired. -/
theorem streaming_ring_safe {c : WindowConfig} {baseRow total : Nat} {calls : List WindowCall}
    {w₀ w : StreamingWindow} {actions : List StreamAction}
    (hnew : StreamingWindow.ofConfig c baseRow total = .ok w₀)
    (hrun : w₀.run calls = .ok (w, actions)) :
    w.retired ≤ w.fed ∧ w.fed ≤ total ∧ w.fed - w.retired ≤ c.window ∧
      actions.filter (·.isFeed) = (List.range w.fed).map (fun k => .feed (k % c.window) k) ∧
      actions.filter (!·.isFeed) =
        (List.range w.retired).map (fun k => .retire (k % c.window) k) ∧
      (∀ slot, TakesTurns none (actions.filter (·.slot = slot))) ∧
      (w.isComplete ↔ ∀ target < total, .feed (target % c.window) target ∈ actions ∧
        .retire (target % c.window) target ∈ actions) := by
  obtain rfl := StreamingWindow.ofConfig_eq_ok hnew
  have hmoves := StreamingWindow.run_moves hrun
  have htotal_eq : w.total = total := hmoves.total_eq
  have hring : RingMoves c.window total 0 0 actions w.fed w.retired := hmoves.ring
  obtain ⟨hbehind, htotal, hroom⟩ :=
    hring.bounds (Nat.le_refl 0) (Nat.zero_le total) (Nat.zero_le _)
  have hfeeds := hring.feeds.2
  have hretires := hring.retires.2
  rw [Nat.sub_zero, ← List.range_eq_range'] at hfeeds hretires
  have hturns : ∀ slot, TakesTurns none (actions.filter (·.slot = slot)) := fun slot =>
    hring.takesTurns (fun target => by simp) (Nat.le_refl 0) (Nat.zero_le _)
  refine ⟨hbehind, htotal, by omega, hfeeds, hretires, hturns, ?_⟩
  simp only [hring.feed_mem_iff, hring.retire_mem_iff, StreamingWindow.isComplete,
    decide_eq_true_eq, Nat.zero_le, true_and, htotal_eq]
  constructor
  · intro hdone target hlt
    omega
  · intro hall
    by_cases hdone : w.retired = total
    · exact hdone
    · -- the next target to retire is one that was not retired
      exact absurd (hall w.retired (by omega)).2 (Nat.lt_irrefl _)

/-- Two slots for four targets, with a pointer that reports before the ring is filled, a row that is
none of the ring, and a lap. -/
theorem streaming_ring_safe_two_slots :
    ∃ w actions,
      StreamingWindow.ofConfig ⟨2, 1, 0⟩ 10 4 =
        .ok { config := ⟨2, 1, 0⟩, baseRow := 10, total := 4 } ∧
      StreamingWindow.run { config := ⟨2, 1, 0⟩, baseRow := 10, total := 4 }
        [.observe .motion 11, .prime, .observe .program 10, .observe .motion 11,
          .observe .program 99, .prime, .observe .program 11, .observe .motion 10] =
        .ok (w, actions) ∧
      actions = [.feed 0 0, .feed 1 1, .retire 0 0, .feed 0 2, .retire 1 1, .feed 1 3] ∧
      w.fed - w.retired ≤ 2 ∧ (∀ slot, TakesTurns none (actions.filter (·.slot = slot))) ∧
      w.isComplete = false := by
  have hrun : StreamingWindow.run { config := ⟨2, 1, 0⟩, baseRow := 10, total := 4 }
      [.observe .motion 11, .prime, .observe .program 10, .observe .motion 11,
        .observe .program 99, .prime, .observe .program 11, .observe .motion 10] =
      .ok ({ config := ⟨2, 1, 0⟩, baseRow := 10, total := 4, fed := 4, retired := 2,
             program := ⟨some 1, 0⟩, motion := ⟨some 0, 1⟩ },
        [.feed 0 0, .feed 1 1, .retire 0 0, .feed 0 2, .retire 1 1, .feed 1 3]) := by rfl
  obtain ⟨_, _, hroom, _, _, hturns, _⟩ := streaming_ring_safe (c := ⟨2, 1, 0⟩) rfl hrun
  exact ⟨_, _, rfl, hrun, rfl, hroom, hturns, rfl⟩

end RobotCell
