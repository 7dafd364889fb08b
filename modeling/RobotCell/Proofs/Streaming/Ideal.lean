import RobotCell.Proofs.Streaming.Ring

/-!
# RobotCell.Proofs.Streaming.Ideal

The streaming window against the true positions of its pointers.

A window sees a pointer's position only up to whole laps.  An `IdealWindow` is told the positions
themselves, and sets its counters to them in one step instead of moving them one by one.  For
pointers that never fall back and never jump a whole window ahead (`Steady`) the two answer alike,
observation by observation (`window_follows_ideal`):

* `Unwrapper.advance_gives`: the laps counted and the offset last seen give the position;
* `repeatWhile_gives`: a loop that moves a counter while it is below a goal sets it to the goal;
* `Tracks.program`, `Tracks.motion`: hence one observation does what the ideal window does.

Only the window computes with words.  `Gives` says of a computation that it has a value unless it
overflows, and overflows only when the numbers do not fit.
-/

namespace RobotCell

/-! ## Results up to overflow -/

/-- A computation gives a value, or overflows while the numbers do not fit. -/
def Gives {α : Type} (fits : Prop) (x : Except Overflow α) (a : α) : Prop :=
  x = .ok a ∨ x = .error {} ∧ ¬fits

namespace Gives

variable {α β : Type} {fits : Prop} {x : Except Overflow α} {a : α}

theorem ok : Gives fits (.ok a) a := .inl rfl

/-- What is computed in two parts is given by both. -/
theorem bind {f : α → Except Overflow β} {result : β} (hx : Gives fits x a)
    (hf : Gives fits (f a) result) : Gives fits (x >>= f) result := by
  rcases hx with rfl | ⟨rfl, hnot⟩
  · exact hf
  · exact .inr ⟨rfl, hnot⟩

/-- A result that is there is the one that is given. -/
theorem eq_of_ok {a' : α} (h : Gives fits x a) (hok : x = .ok a') : a' = a := by
  rcases h with hx | ⟨hx, _⟩
  · exact Except.ok.inj (hok.symm.trans hx)
  · cases hok.symm.trans hx

/-- Where the numbers fit the result is there. -/
theorem eq_ok (h : Gives fits x a) (hfits : fits) : x = .ok a := by
  rcases h with hx | ⟨_, hnot⟩
  · exact hx
  · exact absurd hfits hnot

end Gives

/-- A number is kept as long as it is a word. -/
theorem checkedWord_gives {fits : Prop} {n : Nat} (h : fits → n < wordLimit) :
    Gives fits (checkedWord n) n := by
  by_cases hn : n < wordLimit
  · exact .inl (checkedWord_of_lt hn)
  · exact .inr ⟨if_neg hn, fun hfits => hn (h hfits)⟩

theorem checkedAdd_gives {fits : Prop} {a b : Nat} (h : fits → a + b < wordLimit) :
    Gives fits (checkedAdd a b) (a + b) :=
  checkedWord_gives h

theorem checkedMul_gives {fits : Prop} {a b : Nat} (h : fits → a * b < wordLimit) :
    Gives fits (checkedMul a b) (a * b) :=
  checkedWord_gives h

/-! ## Positions -/

/-- The positions that a pointer is seen at, after a first one: it never falls back, and never jumps
a whole window ahead. -/
def Steady (window : Nat) : Nat → List Nat → Prop
  | _, [] => True
  | last, position :: rest =>
    last ≤ position ∧ position < last + window ∧ Steady window position rest

instance Steady.decidable (window : Nat) : ∀ last positions, Decidable (Steady window last positions)
  | _, [] => .isTrue trivial
  | last, position :: rest =>
    have := Steady.decidable window position rest
    inferInstanceAs (Decidable (last ≤ position ∧ position < last + window ∧ _))

/-- The laps and the offset of a position, which a pointer that has not been seen has at zero. -/
structure Unwrapper.At (u : Unwrapper) (window position : Nat) : Prop where
  laps_eq : u.laps = position / window
  last_eq : u.last.getD 0 = position % window

theorem Unwrapper.At.new {window : Nat} : Unwrapper.At {} window 0 :=
  ⟨(Nat.zero_div window).symm, (Nat.zero_mod window).symm⟩

/-- A step of less than a window goes into the next lap just when the offset falls. -/
theorem div_add_mod_wraps {window p q : Nat} (hle : p ≤ q) (hlt : q < p + window) :
    q / window = if q % window < p % window then p / window + 1 else p / window := by
  have hw : 0 < window := by omega
  have hp := Nat.div_add_mod p window
  have hq := Nat.div_add_mod q window
  have hpm := Nat.mod_lt p hw
  have hqm := Nat.mod_lt q hw
  have hmono : p / window ≤ q / window := Nat.div_le_div_right hle
  have hnext : q / window ≤ p / window + 1 := by
    rw [← Nat.add_div_right p hw]
    exact Nat.div_le_div_right (by omega)
  rcases Nat.eq_or_lt_of_le hmono with hsame | hmore
  · rw [hsame] at hp
    rw [if_neg (by omega), hsame]
  · have hsucc : q / window = p / window + 1 := by omega
    rw [hsucc, Nat.mul_add, Nat.mul_one] at hq
    rw [if_pos (by omega), hsucc]

/-- The pointer at its next offset is at its next position. -/
theorem Unwrapper.advance_gives {u : Unwrapper} {window p q : Nat} {fits : Prop}
    (h : u.At window p) (hle : p ≤ q) (hlt : q < p + window) (hfits : fits → q < wordLimit) :
    Gives fits (u.advance window (q % window)) (⟨some (q % window), q / window⟩, q) := by
  have hwraps : u.wraps (q % window) = decide (q % window < p % window) := by
    rw [← h.last_eq]
    unfold wraps
    cases u.last <;> simp
  have hword : fits → q / window < wordLimit := fun hf =>
    Nat.lt_of_le_of_lt (Nat.div_le_self q window) (hfits hf)
  have hsum : q / window * window + q % window = q := Nat.div_add_mod' q window
  have hproduct : fits → q / window * window < wordLimit := fun hf =>
    Nat.lt_of_le_of_lt (Nat.div_mul_le_self q window) (hfits hf)
  have hposition : Gives fits (checkedAdd (q / window * window) (q % window)) q := by
    have hgives := checkedAdd_gives (a := q / window * window) (b := q % window)
      fun hf => hsum.symm ▸ hfits hf
    rwa [hsum] at hgives
  have htail : Gives fits
      (do
        let position ← checkedAdd (← checkedMul (q / window) window) (q % window)
        return ((⟨some (q % window), q / window⟩ : Unwrapper), position))
      (⟨some (q % window), q / window⟩, q) :=
    (checkedMul_gives hproduct).bind (hposition.bind .ok)
  unfold advance
  have hlaps := div_add_mod_wraps hle hlt
  by_cases hback : q % window < p % window
  · rw [if_pos hback] at hlaps
    rw [hwraps, decide_eq_true hback, h.laps_eq]
    rw [hlaps] at hword
    refine Gives.bind (a := q / window) ?_ htail
    rw [hlaps]
    exact checkedAdd_gives hword
  · rw [if_neg hback] at hlaps
    rw [hwraps, decide_eq_false hback, h.laps_eq, ← hlaps]
    exact Gives.bind .ok htail

/-! ## Sightings -/

/-- What is seen of a pointer: its true position, or a row that is none of the ring. -/
inductive Sighting where
  | inside (kind : PointerKind) (position : Nat)
  | outside (kind : PointerKind) (row : Nat)
  deriving DecidableEq

namespace Sighting

/-- The observation that a window gets. -/
def call (window baseRow : Nat) : Sighting → WindowCall
  | .inside kind position => .observe kind (baseRow + position % window)
  | .outside kind row => .observe kind row

/-- The position that a sighting shows of a pointer. -/
def position? (kind : PointerKind) : Sighting → Option Nat
  | .inside k position => if k = kind then some position else none
  | .outside _ _ => none

/-- A row that is said to be none of the ring is none. -/
def Truthful (window baseRow : Nat) : Sighting → Prop
  | .inside _ _ => True
  | .outside _ row => row < baseRow ∨ baseRow + window ≤ row

/-- A position is a word. -/
def Fits : Sighting → Prop
  | .inside _ position => position < wordLimit
  | .outside _ _ => True

end Sighting

instance (window baseRow : Nat) : DecidablePred (Sighting.Truthful window baseRow)
  | .inside _ _ => .isTrue trivial
  | .outside _ row => inferInstanceAs (Decidable (row < baseRow ∨ baseRow + window ≤ row))

instance : DecidablePred Sighting.Fits
  | .inside _ position => inferInstanceAs (Decidable (position < wordLimit))
  | .outside _ _ => .isTrue trivial

/-- The positions that a pointer is seen at, in order. -/
def positions (kind : PointerKind) (seen : List Sighting) : List Nat :=
  seen.filterMap (·.position? kind)

/-! ## Answers -/

/-- What a call of a window shows: its actions, and the counters after it. -/
structure WindowReply where
  actions : List StreamAction
  fed : Nat
  retired : Nat
  deriving DecidableEq

namespace StreamingWindow

/-- What each of a sequence of calls shows. -/
def replies (w : StreamingWindow) : List WindowCall → Except Overflow (List WindowReply)
  | [] => .ok []
  | call :: rest => do
    let (w, actions) ← w.perform call
    let more ← w.replies rest
    return ⟨actions, w.fed, w.retired⟩ :: more

end StreamingWindow

/-! ## The ideal window -/

/-- A window that is told true positions. -/
structure IdealWindow where
  config : WindowConfig
  total : Nat
  fed : Nat
  retired : Nat
  deriving DecidableEq

namespace IdealWindow

/-- The feeds of the targets that a counter passes over. -/
def feeds (window first next : Nat) : List StreamAction :=
  (List.range' first (next - first)).map fun k => .feed (k % window) k

/-- The retires of the targets that a counter passes over. -/
def retires (window first next : Nat) : List StreamAction :=
  (List.range' first (next - first)).map fun k => .retire (k % window) k

/-- A window whose ring has been filled. -/
def primed (c : WindowConfig) (total : Nat) : IdealWindow := ⟨c, total, min total c.window, 0⟩

/-- A program pointer at a position retires all that lies its margin behind. -/
def retiredAt (w : IdealWindow) (position : Nat) : Nat :=
  max w.retired (min w.fed (position + 1 - w.config.retireMargin))

/-- A motion pointer at a position feeds the slots of what is retired and lies its margin behind. -/
def fedAt (w : IdealWindow) (position : Nat) : Nat :=
  max w.fed (min w.total (min (w.retired + w.config.window)
    (position + 1 + w.config.window - w.config.feedMargin)))

/-- Takes a sighting. -/
def see (w : IdealWindow) : Sighting → IdealWindow × List StreamAction
  | .inside .program position =>
    ({ w with retired := w.retiredAt position },
      retires w.config.window w.retired (w.retiredAt position))
  | .inside .motion position =>
    ({ w with fed := w.fedAt position }, feeds w.config.window w.fed (w.fedAt position))
  | .outside _ _ => (w, [])

/-- What each of a sequence of sightings shows. -/
def replies (w : IdealWindow) : List Sighting → List WindowReply
  | [] => []
  | s :: rest => ⟨(w.see s).2, (w.see s).1.fed, (w.see s).1.retired⟩ :: (w.see s).1.replies rest

end IdealWindow

/-! ## Loops -/

namespace StreamingWindow

/-- A loop that moves a counter one by one while it is below a goal `n` moves it to the goal: `f` is
the window with the counter at a place, and `e` the action on the way from there. -/
theorem repeatWhile_gives {fits : Prop} {due : StreamingWindow → Except Overflow Bool}
    {act : StreamingWindow → Except Overflow (StreamingWindow × StreamAction)}
    {f : Nat → StreamingWindow} {e : Nat → StreamAction} {k n bound : Nat}
    (hdue : ∀ j, k ≤ j → j ≤ max k n → Gives fits (due (f j)) (decide (j < n)))
    (hact : ∀ j, j < n → Gives fits (act (f j)) (f (j + 1), e j)) (hbound : n - k ≤ bound) :
    Gives fits (repeatWhile due act bound (f k))
      (f (max k n), (List.range' k (n - k)).map e) := by
  induction bound generalizing k with
  | zero =>
      have hle : n ≤ k := by omega
      rw [Nat.max_eq_left hle, Nat.sub_eq_zero_of_le hle]
      exact .ok
  | succ bound ih =>
      refine (hdue k (Nat.le_refl k) (Nat.le_max_left k n)).bind ?_
      by_cases hlt : k < n
      · have hlen : n - k = (n - (k + 1)) + 1 := by omega
        have hmax : max k n = max (k + 1) n := by omega
        rw [hlen, List.range'_succ, List.map_cons, hmax, decide_eq_true hlt]
        exact (hact k hlt).bind
          ((ih (fun j hj hmax => hdue j (by omega) (by omega)) (by omega)).bind .ok)
      · rw [Nat.max_eq_left (by omega), Nat.sub_eq_zero_of_le (by omega), decide_eq_false hlt]
        exact .ok

end StreamingWindow

/-! ## Observations -/

namespace StreamingWindow

variable {w : StreamingWindow} {program motion position : Nat} {fits : Prop}

/-- The ideal window with the counters of a window. -/
def ideal (w : StreamingWindow) : IdealWindow := ⟨w.config, w.total, w.fed, w.retired⟩

/-- Margins that fit the window, counters in their order, and a ring that has been filled. -/
structure Primed (w : StreamingWindow) : Prop where
  feedMargin_lt : w.config.feedMargin < w.config.window
  retired_le : w.retired ≤ w.fed
  fed_le : w.fed ≤ w.total
  filled : min w.total w.config.window ≤ w.fed

theorem Primed.window_pos (h : w.Primed) : 0 < w.config.window :=
  Nat.zero_lt_of_lt h.feedMargin_lt

/-- The numbers that a window counts with are words. -/
def CountsFit (w : StreamingWindow) : Prop := w.total + w.config.retireMargin < wordLimit

/-- A position is seen at a row of the ring. -/
theorem offset?_row (h : 0 < w.config.window) :
    w.offset? (w.baseRow + position % w.config.window) = some (position % w.config.window) := by
  have hlt := Nat.mod_lt position h
  unfold offset?
  rw [Nat.add_sub_cancel_left, if_pos ⟨Nat.le_add_right _ _, hlt⟩]

/-- A row that is none of the ring shows nothing. -/
theorem observe_outside {kind : PointerKind} {row : Nat}
    (hrow : row < w.baseRow ∨ w.baseRow + w.config.window ≤ row) :
    w.observe kind row = .ok (w, []) := by
  have hnone : w.offset? row = none := by
    unfold offset?
    rw [if_neg (by omega)]
  unfold observe
  rw [hnone]

/-- Counts that fit have a total that is a word. -/
theorem CountsFit.total_lt (h : w.CountsFit) : w.total < wordLimit :=
  Nat.lt_of_le_of_lt (Nat.le_add_right _ _) h

/-- A target is due to be retired just when it is fed and lies the margin behind the pointer. -/
theorem retireDue_gives
    (hsum : fits → w.retired < w.fed → w.retired + w.config.retireMargin < wordLimit) :
    Gives fits (w.retireDue position)
      (decide (w.retired < min w.fed (position + 1 - w.config.retireMargin))) := by
  unfold retireDue
  by_cases hloaded : w.retired < w.fed
  · rw [if_pos hloaded]
    have hiff : w.retired + w.config.retireMargin ≤ position ↔
        w.retired < min w.fed (position + 1 - w.config.retireMargin) := by omega
    rw [← decide_eq_decide.mpr hiff]
    exact (checkedAdd_gives fun hf => hsum hf hloaded).bind .ok
  · rw [if_neg hloaded, decide_eq_false (by omega)]
    exact .ok

/-- Retiring counts one row more. -/
theorem retire_gives (hwindow : 0 < w.config.window) (hloaded : w.retired < w.fed)
    (hle : w.fed ≤ w.total) (htotal : fits → w.total < wordLimit) :
    Gives fits w.retire ({ w with retired := w.retired + 1 },
      .retire (w.retired % w.config.window) w.retired) := by
  have hsum : fits → w.retired + 1 < wordLimit := fun hf => by
    have := htotal hf
    omega
  unfold retire
  rw [checkedMod_of_ne_zero (Nat.ne_of_gt hwindow)]
  exact (checkedAdd_gives hsum).bind (Gives.bind .ok .ok)

/-- The program pointer retires what the ideal window retires; a margin is added only to targets up
to the first that is not retired. -/
theorem observe_program_gives (h : w.Primed) (hat : w.program.At w.config.window program)
    (hle : program ≤ position) (hlt : position < program + w.config.window)
    (hposition : fits → position < wordLimit) (htotal : fits → w.total < wordLimit)
    (hmargin : fits → ∀ k < w.fed, k ≤ w.ideal.retiredAt position →
      k + w.config.retireMargin < wordLimit) :
    Gives fits (w.observe .program (w.baseRow + position % w.config.window))
      ({ w with
          retired := w.ideal.retiredAt position
          program := ⟨some (position % w.config.window), position / w.config.window⟩ },
        IdealWindow.retires w.config.window w.retired (w.ideal.retiredAt position)) := by
  have hretires : IdealWindow.retires w.config.window w.retired (w.ideal.retiredAt position) =
      (List.range' w.retired
        (min w.fed (position + 1 - w.config.retireMargin) - w.retired)).map
        fun k => .retire (k % w.config.window) k := by
    have hlen : w.ideal.retiredAt position - w.retired =
        min w.fed (position + 1 - w.config.retireMargin) - w.retired := by
      simp only [IdealWindow.retiredAt, ideal]
      omega
    rw [IdealWindow.retires, hlen]
  unfold observe
  rw [offset?_row h.window_pos, hretires]
  refine (Unwrapper.advance_gives hat hle hlt hposition).bind ?_
  -- the counter of retires runs up to the fed targets that lie the margin behind
  refine repeatWhile_gives
    (f := fun k => { w with
      retired := k
      program := ⟨some (position % w.config.window), position / w.config.window⟩ })
    (n := min w.fed (position + 1 - w.config.retireMargin))
    (fun k _ hk => ?_) (fun k hk => ?_) (by omega)
  · exact retireDue_gives fun hf hloaded => hmargin hf k hloaded hk
  · exact retire_gives h.window_pos (show k < w.fed by omega) h.fed_le htotal

/-- The next target is due to be fed just when there is one, its slot is retired, and the target
before it in that slot lies the margin behind the pointer. -/
theorem feedDue_gives (h : w.config.feedMargin < w.config.window)
    (hfilled : min w.total w.config.window ≤ w.fed) (htotal : fits → w.total < wordLimit) :
    Gives fits (w.feedDue position)
      (decide (w.fed < min w.total (min (w.retired + w.config.window)
        (position + 1 + w.config.window - w.config.feedMargin)))) := by
  unfold feedDue
  by_cases hleft : w.fed < w.total ∧ w.config.window ≤ w.fed
  · rw [if_pos hleft, checkedSub_of_le hleft.2]
    refine Gives.bind .ok ?_
    by_cases hfree : w.fed - w.config.window < w.retired
    · rw [if_pos hfree]
      have hsum : fits → w.fed - w.config.window + w.config.feedMargin < wordLimit := fun hf => by
        have := htotal hf
        omega
      have hiff : w.fed - w.config.window + w.config.feedMargin ≤ position ↔
          w.fed < min w.total (min (w.retired + w.config.window)
            (position + 1 + w.config.window - w.config.feedMargin)) := by omega
      rw [← decide_eq_decide.mpr hiff]
      exact (checkedAdd_gives hsum).bind .ok
    · rw [if_neg hfree, decide_eq_false (by omega)]
      exact .ok
  · rw [if_neg hleft, decide_eq_false (by omega)]
    exact .ok

/-- Feeding counts one row more. -/
theorem feed_gives (hwindow : 0 < w.config.window) (hleft : w.fed < w.total)
    (htotal : fits → w.total < wordLimit) :
    Gives fits w.feed ({ w with fed := w.fed + 1 }, .feed (w.fed % w.config.window) w.fed) := by
  have hsum : fits → w.fed + 1 < wordLimit := fun hf => by
    have := htotal hf
    omega
  unfold feed
  rw [checkedMod_of_ne_zero (Nat.ne_of_gt hwindow)]
  exact (checkedAdd_gives hsum).bind (Gives.bind .ok .ok)

/-- The motion pointer feeds what the ideal window feeds. -/
theorem observe_motion_gives (h : w.Primed) (hat : w.motion.At w.config.window motion)
    (hle : motion ≤ position) (hlt : position < motion + w.config.window)
    (hposition : fits → position < wordLimit) (htotal : fits → w.total < wordLimit) :
    Gives fits (w.observe .motion (w.baseRow + position % w.config.window))
      ({ w with
          fed := w.ideal.fedAt position
          motion := ⟨some (position % w.config.window), position / w.config.window⟩ },
        IdealWindow.feeds w.config.window w.fed (w.ideal.fedAt position)) := by
  have hfeeds : IdealWindow.feeds w.config.window w.fed (w.ideal.fedAt position) =
      (List.range' w.fed (min w.total (min (w.retired + w.config.window)
        (position + 1 + w.config.window - w.config.feedMargin)) - w.fed)).map
        fun k => .feed (k % w.config.window) k := by
    have hlen : w.ideal.fedAt position - w.fed =
        min w.total (min (w.retired + w.config.window)
          (position + 1 + w.config.window - w.config.feedMargin)) - w.fed := by
      simp only [IdealWindow.fedAt, ideal]
      omega
    rw [IdealWindow.feeds, hlen]
  unfold observe
  rw [offset?_row h.window_pos, hfeeds]
  refine (Unwrapper.advance_gives hat hle hlt hposition).bind ?_
  -- the counter of feeds runs up to the slots of retired targets that lie the margin behind
  refine repeatWhile_gives
    (f := fun k => { w with
      fed := k
      motion := ⟨some (position % w.config.window), position / w.config.window⟩ })
    (n := min w.total (min (w.retired + w.config.window)
      (position + 1 + w.config.window - w.config.feedMargin)))
    (fun k hk _ => ?_) (fun k hk => ?_) (by omega)
  · exact feedDue_gives h.feedMargin_lt (Nat.le_trans h.filled hk) htotal
  · exact feed_gives h.window_pos (show k < w.total by omega) htotal

/-- Filling the ring of a new window feeds one target for each slot, as far as there are targets. -/
theorem prime_fills {c : WindowConfig} {baseRow total : Nat} (hwindow : 0 < c.window)
    (htotal : fits → total < wordLimit) :
    Gives fits (prime { config := c, baseRow, total })
      ({ config := c, baseRow, total, fed := min total c.window },
        IdealWindow.feeds c.window 0 (min total c.window)) :=
  repeatWhile_gives (f := fun k => { config := c, baseRow, total, fed := k }) (k := 0)
    (n := min total c.window) (fun _ _ _ => .ok)
    (fun k hk => feed_gives hwindow (show k < total by omega) htotal) (Nat.le_refl _)

/-- Priming fills the ring or takes all the rows there are. -/
theorem prime_gives {c : WindowConfig} {baseRow total : Nat} (hwindow : 0 < c.window)
    (hfits : fits → total + c.retireMargin < wordLimit) :
    Gives fits (prime { config := c, baseRow, total })
      ({ config := c, baseRow, total, fed := min total c.window },
        IdealWindow.feeds c.window 0 (min total c.window)) :=
  prime_fills hwindow fun hf => Nat.lt_of_le_of_lt (Nat.le_add_right _ _) (hfits hf)

/-! ## Runs -/

/-- What a window and its pointers are between two sightings. -/
structure Seen (w : StreamingWindow) (program motion : Nat) : Prop extends w.Primed where
  program_at : w.program.At w.config.window program
  motion_at : w.motion.At w.config.window motion

/-- After priming nothing has been seen yet. -/
theorem Seen.primed {c : WindowConfig} {baseRow total : Nat} (h : c.feedMargin < c.window) :
    Seen { config := c, baseRow, total, fed := min total c.window } 0 0 where
  feedMargin_lt := h
  retired_le := Nat.zero_le _
  fed_le := Nat.min_le_left _ _
  filled := Nat.le_refl _
  program_at := .new
  motion_at := .new

/-- The window after the program pointer was seen. -/
theorem Seen.seeProgram (h : w.Seen program motion) :
    Seen { w with
      retired := w.ideal.retiredAt position
      program := ⟨some (position % w.config.window), position / w.config.window⟩ }
      position motion where
  feedMargin_lt := h.feedMargin_lt
  retired_le := Nat.max_le.mpr ⟨h.retired_le, Nat.min_le_left _ _⟩
  fed_le := h.fed_le
  filled := h.filled
  program_at := ⟨rfl, rfl⟩
  motion_at := h.motion_at

/-- The window after the motion pointer was seen. -/
theorem Seen.seeMotion (h : w.Seen program motion) :
    Seen { w with
      fed := w.ideal.fedAt position
      motion := ⟨some (position % w.config.window), position / w.config.window⟩ }
      program position where
  feedMargin_lt := h.feedMargin_lt
  retired_le := Nat.le_trans h.retired_le (Nat.le_max_left _ _)
  fed_le := Nat.max_le.mpr ⟨h.fed_le, Nat.min_le_left _ _⟩
  filled := Nat.le_trans h.filled (Nat.le_max_left _ _)
  program_at := h.program_at
  motion_at := ⟨rfl, rfl⟩

/-- A window answers sightings as the ideal window does. -/
theorem replies_gives {seen : List Sighting} (h : w.Seen program motion)
    (hprogram : Steady w.config.window program (positions .program seen))
    (hmotion : Steady w.config.window motion (positions .motion seen))
    (houtside : ∀ s ∈ seen, s.Truthful w.config.window w.baseRow)
    (hposition : fits → ∀ s ∈ seen, s.Fits) (hfits : fits → w.CountsFit) :
    Gives fits (w.replies (seen.map (·.call w.config.window w.baseRow)))
      (w.ideal.replies seen) := by
  induction seen generalizing w program motion with
  | nil => exact .ok
  | cons s rest ih =>
      rw [List.forall_mem_cons] at houtside
      have hfirst : fits → s.Fits := fun hf => hposition hf s List.mem_cons_self
      have hrest : fits → ∀ s ∈ rest, s.Fits := fun hf s hs =>
        hposition hf s (List.mem_cons_of_mem _ hs)
      cases s with
      | outside kind row =>
          refine Gives.bind (a := (w, [])) ?_ ((ih h hprogram hmotion houtside.2 hrest hfits).bind .ok)
          exact .inl (observe_outside houtside.1)
      | inside kind position =>
          cases kind with
          | program =>
              obtain ⟨hle, hlt, hsteady⟩ := hprogram
              have hmargin : fits → ∀ k < w.fed, k ≤ w.ideal.retiredAt position →
                  k + w.config.retireMargin < wordLimit := fun hf k hk _ => by
                have hcounts := hfits hf
                have hle := h.fed_le
                unfold CountsFit at hcounts
                omega
              exact (observe_program_gives h.toPrimed h.program_at hle hlt hfirst
                (fun hf => (hfits hf).total_lt) hmargin).bind
                ((ih h.seeProgram hsteady hmotion houtside.2 hrest hfits).bind .ok)
          | motion =>
              obtain ⟨hle, hlt, hsteady⟩ := hmotion
              exact (observe_motion_gives h.toPrimed h.motion_at hle hlt hfirst
                fun hf => (hfits hf).total_lt).bind
                ((ih h.seeMotion hprogram hsteady houtside.2 hrest hfits).bind .ok)

/-- An accepted configuration has margins that fit its window. -/
theorem margins_of_ofConfig {c : WindowConfig} {baseRow total : Nat}
    (h : ofConfig c baseRow total = .ok w) :
    0 < c.window ∧ c.feedMargin < c.window ∧ c.retireMargin ≤ c.feedMargin := by
  cases hdefect : c.defect? with
  | none => exact WindowConfig.defect?_eq_none_iff.mp hdefect
  | some defect => simp [ofConfig, WindowConfig.validate, hdefect] at h

theorem feedMargin_lt_of_ofConfig {c : WindowConfig} {baseRow total : Nat}
    (h : ofConfig c baseRow total = .ok w) : c.feedMargin < c.window :=
  (margins_of_ofConfig h).2.1

end StreamingWindow

/-! ## The result -/

/-- What a new window is asked: to fill its ring, and then to take what is seen of its pointers. -/
def Sighting.calls (window baseRow : Nat) (seen : List Sighting) : List WindowCall :=
  .prime :: seen.map (·.call window baseRow)

/-- What an ideal window answers: the feeds that fill its ring, and then what it does at the true
positions. -/
def IdealWindow.answers (c : WindowConfig) (total : Nat) (seen : List Sighting) :
    List WindowReply :=
  ⟨feeds c.window 0 (min total c.window), min total c.window, 0⟩ :: (primed c total).replies seen

/-- **A window follows the true positions**: a window that first fills its ring, and then sees two
pointers that never fall back and never jump a whole window ahead, each only by the row of its
position, answers every observation as the ideal window does that is told the positions, whatever
else it sees outside of its ring.  Nothing overflows while positions and counts are words. -/
theorem window_follows_ideal {c : WindowConfig} {baseRow total : Nat} {seen : List Sighting}
    {w : StreamingWindow} (hnew : StreamingWindow.ofConfig c baseRow total = .ok w)
    (hprogram : Steady c.window 0 (positions .program seen))
    (hmotion : Steady c.window 0 (positions .motion seen))
    (houtside : ∀ s ∈ seen, s.Truthful c.window baseRow) :
    (∀ replies, w.replies (Sighting.calls c.window baseRow seen) = .ok replies →
      replies = IdealWindow.answers c total seen) ∧
    (total + c.retireMargin < wordLimit → (∀ s ∈ seen, s.Fits) →
      w.replies (Sighting.calls c.window baseRow seen) =
        .ok (IdealWindow.answers c total seen)) := by
  have hmargin := StreamingWindow.feedMargin_lt_of_ofConfig hnew
  obtain rfl := StreamingWindow.ofConfig_eq_ok hnew
  have hgives : Gives (total + c.retireMargin < wordLimit ∧ ∀ s ∈ seen, s.Fits)
      (StreamingWindow.replies { config := c, baseRow, total }
        (Sighting.calls c.window baseRow seen)) (IdealWindow.answers c total seen) :=
    (StreamingWindow.prime_gives (Nat.zero_lt_of_lt hmargin) (·.1)).bind
      ((StreamingWindow.replies_gives (.primed hmargin) hprogram hmotion houtside (·.2)
        (·.1)).bind .ok)
  exact ⟨fun replies hok => hgives.eq_of_ok hok, fun hcounts hseen => hgives.eq_ok ⟨hcounts, hseen⟩⟩

/-- Three slots for six targets: both pointers go into their second lap, and a row that is none of
the ring is passed over. -/
theorem window_follows_ideal_second_lap :
    ∃ w, StreamingWindow.ofConfig ⟨3, 1, 1⟩ 10 6 = .ok w ∧
      w.replies [.prime, .observe .program 12, .observe .motion 99, .observe .motion 12,
        .observe .program 11, .observe .motion 11] =
      .ok [⟨[.feed 0 0, .feed 1 1, .feed 2 2], 3, 0⟩, ⟨[.retire 0 0, .retire 1 1], 3, 2⟩,
        ⟨[], 3, 2⟩, ⟨[.feed 0 3, .feed 1 4], 5, 2⟩, ⟨[.retire 2 2, .retire 0 3], 5, 4⟩,
        ⟨[.feed 2 5], 6, 4⟩] :=
  ⟨{ config := ⟨3, 1, 1⟩, baseRow := 10, total := 6 }, rfl,
    (@window_follows_ideal ⟨3, 1, 1⟩ 10 6 [.inside .program 2, .outside .motion 99,
        .inside .motion 2, .inside .program 4, .inside .motion 4] _ rfl
      (by decide) (by decide) (by decide)).2 (by decide) (by decide)⟩

end RobotCell
