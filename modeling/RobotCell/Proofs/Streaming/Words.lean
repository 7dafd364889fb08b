import RobotCell.Proofs.Streaming.Ideal

/-!
# RobotCell.Proofs.Streaming.Words

A window counts with words.

The laps that a pointer is counted to have made are the jumps back of its row (`perform_lapsAfter`),
so its position is less than one lap past their product with the window.  The counters stay in range
because each is tied to a number that is a word: the feeds to the total, and the retires, with their
margin added, to a position that the program pointer has reached (`CountsInWords`).  Nothing is
asked of the rows, nor of when the ring is filled.
-/

namespace RobotCell

/-! ## Jumps back -/

/-- The row of the ring at which a call shows a pointer. -/
def WindowCall.ringRow? (window baseRow : Nat) (kind : PointerKind) : WindowCall → Option Nat
  | .prime => none
  | .observe k row => if k = kind ∧ baseRow ≤ row ∧ row < baseRow + window then some row else none

/-- The rows of the ring at which a pointer is seen, in order. -/
def ringRows (window baseRow : Nat) (kind : PointerKind) (calls : List WindowCall) : List Nat :=
  calls.filterMap (·.ringRow? window baseRow kind)

/-- How often a list of numbers falls from one to the next. -/
def falls : List Nat → Nat
  | a :: b :: rest => (if b < a then 1 else 0) + falls (b :: rest)
  | _ => 0

/-- How often the row of a pointer jumps back within the ring. -/
def jumpsBack (window baseRow : Nat) (kind : PointerKind) (calls : List WindowCall) : Nat :=
  falls (ringRows window baseRow kind calls)

/-! ## Laps -/

theorem checkedMul_eq_ok_iff {a b m : Nat} :
    checkedMul a b = .ok m ↔ a * b < wordLimit ∧ m = a * b :=
  checkedWord_eq_ok_iff

namespace Unwrapper

variable {u u' : Unwrapper} {window offset position laps : Nat}

/-- The laps of a pointer that is seen at an offset. -/
def lapsAt (u : Unwrapper) (offset : Nat) : Nat := u.laps + if u.wraps offset then 1 else 0

/-- Counts the lap that a jump back to an offset ends. -/
def countLap (u : Unwrapper) (offset : Nat) : Except Overflow Nat :=
  if u.wraps offset then checkedAdd u.laps 1 else .ok u.laps

theorem countLap_eq_ok_iff :
    u.countLap offset = .ok laps ↔
      laps = u.lapsAt offset ∧ (u.wraps offset = true → laps < wordLimit) := by
  unfold countLap lapsAt
  split
  · rw [checkedAdd_eq_ok_iff]
    grind
  · grind

theorem advance_eq_bind :
    u.advance window offset =
      (do
        let laps ← u.countLap offset
        let product ← checkedMul laps window
        let position ← checkedAdd product offset
        return (⟨some offset, laps⟩, position)) := by
  unfold advance countLap
  split <;> rfl

/-- A pointer is moved to an offset just when its position there is a word. -/
theorem advance_eq_ok_iff (hwindow : 0 < window) :
    u.advance window offset = .ok (u', position) ↔
      u' = ⟨some offset, u.lapsAt offset⟩ ∧ position = u.lapsAt offset * window + offset ∧
        position < wordLimit := by
  have hlaps : u.lapsAt offset ≤ u.lapsAt offset * window := Nat.le_mul_of_pos_right _ hwindow
  simp only [advance_eq_bind, bind_eq_ok_iff, countLap_eq_ok_iff, checkedMul_eq_ok_iff,
    checkedAdd_eq_ok_iff]
  constructor
  · rintro ⟨_, ⟨rfl, -⟩, _, ⟨-, rfl⟩, _, ⟨hposition, rfl⟩, heq⟩
    cases heq
    exact ⟨rfl, rfl, hposition⟩
  · rintro ⟨rfl, rfl, hposition⟩
    exact ⟨_, ⟨rfl, fun _ => by omega⟩, _, ⟨by omega, rfl⟩, _, ⟨hposition, rfl⟩, rfl⟩

end Unwrapper

namespace StreamingWindow

variable {w w' : StreamingWindow} {kind : PointerKind} {row offset position : Nat}
  {call : WindowCall} {calls rest : List WindowCall} {action : StreamAction}
  {actions : List StreamAction}

/-- What is known of a pointer. -/
def pointer (w : StreamingWindow) : PointerKind → Unwrapper
  | .program => w.program
  | .motion => w.motion

/-- The row of the ring at which a pointer was last seen. -/
def lastRow? (w : StreamingWindow) (kind : PointerKind) : Option Nat :=
  (w.pointer kind).last.map (w.baseRow + ·)

/-- The laps of a pointer after further calls: those so far, and one for each jump back. -/
def lapsAfter (w : StreamingWindow) (kind : PointerKind) (calls : List WindowCall) : Nat :=
  (w.pointer kind).laps +
    falls ((w.lastRow? kind).toList ++ ringRows w.config.window w.baseRow kind calls)

/-- With no further calls the laps are those so far. -/
theorem lapsAfter_nil : w.lapsAfter kind [] = (w.pointer kind).laps := by
  unfold lapsAfter ringRows
  cases w.lastRow? kind <;> rfl

/-- A row is in the ring just when it has an offset. -/
theorem ringRow?_observe {k : PointerKind} :
    (WindowCall.observe k row).ringRow? w.config.window w.baseRow kind =
      if k = kind then (w.offset? row).map (w.baseRow + ·) else none := by
  unfold WindowCall.ringRow? offset?
  grind

/-- A call that shows a pointer at no row of the ring leaves its laps alone. -/
theorem lapsAfter_cons_of_none
    (h : call.ringRow? w.config.window w.baseRow kind = none) :
    w.lapsAfter kind (call :: rest) = w.lapsAfter kind rest := by
  simp [lapsAfter, ringRows, h]

/-- A jump back within the ring is a lap. -/
theorem lapsAfter_cons_of_some (h : w.offset? row = some offset) :
    w.lapsAfter kind (.observe kind row :: rest) = (w.pointer kind).lapsAt offset +
      falls ((w.baseRow + offset) :: ringRows w.config.window w.baseRow kind rest) := by
  have hrow : (WindowCall.observe kind row).ringRow? w.config.window w.baseRow kind =
      some (w.baseRow + offset) := by
    rw [ringRow?_observe, if_pos rfl, h]
    rfl
  have hrows : ringRows w.config.window w.baseRow kind (.observe kind row :: rest) =
      (w.baseRow + offset) :: ringRows w.config.window w.baseRow kind rest :=
    List.filterMap_cons_some hrow
  unfold lapsAfter lastRow? Unwrapper.lapsAt Unwrapper.wraps
  rw [hrows]
  cases (w.pointer kind).last with
  | none => simp
  | some last => simp [falls, Nat.add_assoc]

/-! ## Pointers -/

theorem pointer_of_feed (h : w.feed = .ok (w', action)) : w'.pointer = w.pointer := by
  simp only [feed, bind_eq_ok_iff] at h
  obtain ⟨next, -, slot, -, heq⟩ := h
  cases heq
  rfl

theorem pointer_of_retire (h : w.retire = .ok (w', action)) : w'.pointer = w.pointer := by
  simp only [retire, bind_eq_ok_iff] at h
  obtain ⟨next, -, slot, -, heq⟩ := h
  cases heq
  rfl

/-- A loop whose actions leave the pointers alone leaves them alone. -/
theorem pointer_of_repeatWhile {due : StreamingWindow → Except Overflow Bool}
    {act : StreamingWindow → Except Overflow (StreamingWindow × StreamAction)}
    (hact : ∀ {v v' action}, act v = .ok (v', action) → v'.pointer = v.pointer) {bound : Nat}
    (h : repeatWhile due act bound w = .ok (w', actions)) : w'.pointer = w.pointer := by
  induction bound generalizing w actions with
  | zero =>
      cases h
      rfl
  | succ bound ih =>
      simp only [repeatWhile, bind_eq_ok_iff] at h
      obtain ⟨isDue, -, h⟩ := h
      cases isDue with
      | false =>
          cases h
          rfl
      | true =>
          simp only [if_true, bind_eq_ok_iff] at h
          obtain ⟨⟨w₁, action⟩, hfirst, ⟨w₂, more⟩, hrest, heq⟩ := h
          cases heq
          exact (ih hrest).trans (hact hfirst)

/-- An observation in the ring moves its own pointer, to a position that is a word. -/
theorem observe_pointer (hwindow : 0 < w.config.window)
    (h : w.observe kind row = .ok (w', actions)) (hoffset : w.offset? row = some offset) :
    w'.pointer kind = ⟨some offset, (w.pointer kind).lapsAt offset⟩ ∧
      (w.pointer kind).lapsAt offset * w.config.window + offset < wordLimit ∧
      ∀ k, k ≠ kind → w'.pointer k = w.pointer k := by
  unfold observe at h
  rw [hoffset] at h
  cases kind with
  | program =>
      simp only [bind_eq_ok_iff] at h
      obtain ⟨⟨program, position⟩, hadvance, h⟩ := h
      obtain ⟨rfl, rfl, hposition⟩ := (Unwrapper.advance_eq_ok_iff hwindow).mp hadvance
      have hpointer := pointer_of_repeatWhile pointer_of_retire h
      rw [hpointer]
      exact ⟨rfl, hposition, fun k hk => by cases k <;> trivial⟩
  | motion =>
      simp only [bind_eq_ok_iff] at h
      obtain ⟨⟨motion, position⟩, hadvance, h⟩ := h
      obtain ⟨rfl, rfl, hposition⟩ := (Unwrapper.advance_eq_ok_iff hwindow).mp hadvance
      have hpointer := pointer_of_repeatWhile pointer_of_feed h
      rw [hpointer]
      exact ⟨rfl, hposition, fun k hk => by cases k <;> trivial⟩

/-- What a call does to a pointer: it moves it when it shows it in the ring, and leaves it alone
otherwise. -/
theorem perform_pointer (hwindow : 0 < w.config.window)
    (h : w.perform call = .ok (w', actions)) (kind : PointerKind) :
    (call.ringRow? w.config.window w.baseRow kind = none ∧ w'.pointer kind = w.pointer kind) ∨
      ∃ row offset, call = .observe kind row ∧ w.offset? row = some offset ∧
        w'.pointer kind = ⟨some offset, (w.pointer kind).lapsAt offset⟩ ∧
        (w.pointer kind).lapsAt offset * w.config.window + offset < wordLimit := by
  cases call with
  | prime =>
      have hpointer : w'.pointer = w.pointer := pointer_of_repeatWhile pointer_of_feed h
      exact .inl ⟨rfl, congrFun hpointer kind⟩
  | observe k row =>
      cases hoffset : w.offset? row with
      | none =>
          simp only [perform, observe, hoffset] at h
          cases h
          exact .inl ⟨by simp [ringRow?_observe, hoffset], rfl⟩
      | some offset =>
          obtain ⟨hkind, hposition, hother⟩ := observe_pointer hwindow h hoffset
          by_cases hk : k = kind
          · subst hk
            exact .inr ⟨row, offset, rfl, hoffset, hkind, hposition⟩
          · exact .inl ⟨by rw [ringRow?_observe, if_neg hk], hother kind (Ne.symm hk)⟩

/-- A call counts one lap for each jump back, so that the laps after further calls stay the same. -/
theorem perform_lapsAfter (hwindow : 0 < w.config.window)
    (h : w.perform call = .ok (w', actions)) :
    w'.lapsAfter kind rest = w.lapsAfter kind (call :: rest) := by
  have hmoves := perform_moves h
  obtain ⟨hrow, hpointer⟩ | ⟨row, offset, rfl, hoffset, hpointer, -⟩ :=
    perform_pointer hwindow h kind
  · rw [lapsAfter_cons_of_none hrow]
    simp only [lapsAfter, lastRow?, hpointer, hmoves.config_eq, hmoves.baseRow_eq]
  · rw [lapsAfter_cons_of_some hoffset]
    simp only [lapsAfter, lastRow?, hpointer, hmoves.config_eq, hmoves.baseRow_eq]
    rfl

/-- Laps that have been counted make up positions that are words. -/
def LapsInWords (w : StreamingWindow) : Prop :=
  ∀ kind, (w.pointer kind).laps * w.config.window < wordLimit

theorem LapsInWords.perform (hlaps : w.LapsInWords) (hwindow : 0 < w.config.window)
    (h : w.perform call = .ok (w', actions)) : w'.LapsInWords := by
  intro kind
  rw [(perform_moves h).config_eq]
  obtain ⟨-, hpointer⟩ | ⟨row, offset, -, -, hpointer, hposition⟩ := perform_pointer hwindow h kind
  · rw [hpointer]
    exact hlaps kind
  · rw [hpointer]
    exact Nat.lt_of_le_of_lt (Nat.le_add_right _ _) hposition

/-- The laps at the end of a run are the jumps back, and make up positions that are words. -/
theorem run_laps (hwindow : 0 < w.config.window) (hlaps : w.LapsInWords)
    (h : w.run calls = .ok (w', actions)) :
    (∀ kind, (w'.pointer kind).laps = w.lapsAfter kind calls) ∧ w'.LapsInWords := by
  induction calls generalizing w actions with
  | nil =>
      cases h
      exact ⟨fun _ => lapsAfter_nil.symm, hlaps⟩
  | cons call rest ih =>
      simp only [run, bind_eq_ok_iff] at h
      obtain ⟨⟨w₁, first⟩, hfirst, ⟨w₂, more⟩, hrest, heq⟩ := h
      cases heq
      have hwindow₁ : 0 < w₁.config.window := by rwa [(perform_moves hfirst).config_eq]
      obtain ⟨hcount, hwords⟩ := ih hwindow₁ (hlaps.perform hwindow hfirst) hrest
      exact ⟨fun kind => (hcount kind).trans (perform_lapsAfter hwindow hfirst), hwords⟩

/-! ## Counters -/

/-- The counters of a window, with the margins that are added to them, are words. -/
structure CountsInWords (w : StreamingWindow) : Prop where
  feedMargin_lt : w.config.feedMargin < w.config.window
  retired_le : w.retired ≤ w.fed
  fed_le : w.fed ≤ w.total
  total_lt : w.total < wordLimit
  retired_add_lt : w.retired + w.config.retireMargin < wordLimit

namespace CountsInWords

theorem window_pos (h : w.CountsInWords) : 0 < w.config.window :=
  Nat.zero_lt_of_lt h.feedMargin_lt

/-- What is known of the pointers has no part in it. -/
theorem withPointers (h : w.CountsInWords) (program motion : Unwrapper) :
    CountsInWords { w with program, motion } :=
  ⟨h.feedMargin_lt, h.retired_le, h.fed_le, h.total_lt, h.retired_add_lt⟩

theorem feed (h : w.CountsInWords) (hleft : w.fed < w.total) :
    ∃ w' action, w.feed = .ok (w', action) ∧ w'.CountsInWords := by
  have hgives : Gives True w.feed _ := feed_gives h.window_pos hleft fun _ => h.total_lt
  exact ⟨_, _, hgives.eq_ok trivial, h.feedMargin_lt, Nat.le_succ_of_le h.retired_le, hleft, h.total_lt,
    h.retired_add_lt⟩

/-- The next target is retired at a position that is at least the margin past it. -/
theorem retire (h : w.CountsInWords) (hposition : position + 1 < wordLimit)
    (hdue : w.retireDue position = .ok true) :
    ∃ w' action, w.retire = .ok (w', action) ∧ w'.CountsInWords := by
  have hdueGives : Gives True (w.retireDue position) _ :=
    retireDue_gives fun _ _ => h.retired_add_lt
  have hpast : w.retired < min w.fed (position + 1 - w.config.retireMargin) :=
    of_decide_eq_true (hdueGives.eq_of_ok hdue).symm
  have hgives : Gives True w.retire _ :=
    retire_gives h.window_pos (retireDue_lt hdue) h.fed_le fun _ => h.total_lt
  refine ⟨_, _, hgives.eq_ok trivial, h.feedMargin_lt, retireDue_lt hdue, h.fed_le, h.total_lt, ?_⟩
  show w.retired + 1 + w.config.retireMargin < wordLimit
  omega

theorem retireDue (h : w.CountsInWords) : ∃ isDue, w.retireDue position = .ok isDue :=
  have hgives : Gives True (w.retireDue position) _ := retireDue_gives fun _ _ => h.retired_add_lt
  ⟨_, hgives.eq_ok trivial⟩

/-- Before the ring is filled no feed is due. -/
theorem feedDue (h : w.CountsInWords) : ∃ isDue, w.feedDue position = .ok isDue := by
  by_cases hfilled : min w.total w.config.window ≤ w.fed
  · have hgives : Gives True (w.feedDue position) _ :=
      feedDue_gives h.feedMargin_lt hfilled fun _ => h.total_lt
    exact ⟨_, hgives.eq_ok trivial⟩
  · refine ⟨false, ?_⟩
    unfold StreamingWindow.feedDue
    rw [if_neg (by omega)]

end CountsInWords

/-- A loop runs to its end when an invariant lets its test and its action be computed. -/
theorem repeatWhile_of_invariant {Inv : StreamingWindow → Prop}
    {due : StreamingWindow → Except Overflow Bool}
    {act : StreamingWindow → Except Overflow (StreamingWindow × StreamAction)}
    (hdue : ∀ v, Inv v → ∃ isDue, due v = .ok isDue)
    (hact : ∀ v, Inv v → due v = .ok true → ∃ v' action, act v = .ok (v', action) ∧ Inv v')
    {bound : Nat} (h : Inv w) :
    ∃ w' actions, repeatWhile due act bound w = .ok (w', actions) ∧ Inv w' := by
  induction bound generalizing w with
  | zero => exact ⟨w, [], rfl, h⟩
  | succ bound ih =>
      obtain ⟨isDue, hisDue⟩ := hdue w h
      cases isDue with
      | false =>
          refine ⟨w, [], ?_, h⟩
          rw [repeatWhile, hisDue]
          rfl
      | true =>
          obtain ⟨w₁, action, hfirst, h₁⟩ := hact w h hisDue
          obtain ⟨w₂, more, hrest, h₂⟩ := ih h₁
          refine ⟨w₂, action :: more, ?_, h₂⟩
          rw [repeatWhile, hisDue]
          simp only [bind, Except.bind, if_true, hfirst, hrest]
          rfl

theorem CountsInWords.prime (h : w.CountsInWords) :
    ∃ w' actions, w.prime = .ok (w', actions) ∧ w'.CountsInWords := by
  refine repeatWhile_of_invariant (fun v _ => ⟨_, rfl⟩) (fun v hv hdue => ?_) h
  have hfree : v.fed < min v.total v.config.window := by simpa [primeDue] using hdue
  exact hv.feed (by omega)

/-- An observation is answered when the position that it shows is less than a lap from the end of
the words. -/
theorem CountsInWords.observe (h : w.CountsInWords)
    (hlaps : ∀ offset, w.offset? row = some offset →
      ((w.pointer kind).lapsAt offset + 1) * w.config.window < wordLimit) :
    ∃ w' actions, w.observe kind row = .ok (w', actions) ∧ w'.CountsInWords := by
  unfold StreamingWindow.observe
  cases hoffset : w.offset? row with
  | none => exact ⟨w, [], rfl, h⟩
  | some offset =>
      have hlt : offset < w.config.window := by
        unfold offset? at hoffset
        grind
      have hposition : (w.pointer kind).lapsAt offset * w.config.window + offset + 1 < wordLimit := by
        have hlap := hlaps offset hoffset
        rw [Nat.succ_mul] at hlap
        omega
      have hadvance := (Unwrapper.advance_eq_ok_iff (u := w.pointer kind) h.window_pos).mpr
        ⟨rfl, rfl, Nat.lt_of_succ_lt hposition⟩
      cases kind with
      | program =>
          simp only [pointer] at hadvance hposition
          simp only [hadvance, bind, Except.bind]
          exact repeatWhile_of_invariant (fun v hv => hv.retireDue)
            (fun v hv hdue => hv.retire hposition hdue) (h.withPointers _ _)
      | motion =>
          simp only [pointer] at hadvance hposition
          simp only [hadvance, bind, Except.bind]
          exact repeatWhile_of_invariant (fun v hv => hv.feedDue)
            (fun v hv hdue => hv.feed (feedDue_lt hdue).1) (h.withPointers _ _)

/-- A call is answered while the laps after it are less than one from the end of the words. -/
theorem CountsInWords.perform (h : w.CountsInWords)
    (hlaps : ∀ kind, (w.lapsAfter kind (call :: rest) + 1) * w.config.window < wordLimit) :
    ∃ w' actions, w.perform call = .ok (w', actions) ∧ w'.CountsInWords := by
  cases call with
  | prime => exact h.prime
  | observe kind row =>
      refine h.observe fun offset hoffset => ?_
      have hlap := hlaps kind
      rw [lapsAfter_cons_of_some hoffset] at hlap
      exact Nat.lt_of_le_of_lt (Nat.mul_le_mul_right _ (by omega)) hlap

/-- All calls of a run are answered while the laps at its end are less than one from the end of the
words: on the way there were no more of them. -/
theorem CountsInWords.run (h : w.CountsInWords)
    (hlaps : ∀ kind, (w.lapsAfter kind calls + 1) * w.config.window < wordLimit) :
    ∃ w' actions, w.run calls = .ok (w', actions) := by
  induction calls generalizing w with
  | nil => exact ⟨w, [], rfl⟩
  | cons call rest ih =>
      obtain ⟨w₁, first, hfirst, h₁⟩ := h.perform hlaps
      have hlaps₁ : ∀ kind, (w₁.lapsAfter kind rest + 1) * w₁.config.window < wordLimit := by
        intro kind
        rw [perform_lapsAfter h.window_pos hfirst, (perform_moves hfirst).config_eq]
        exact hlaps kind
      obtain ⟨w₂, more, hrest⟩ := ih h₁ hlaps₁
      refine ⟨w₂, first ++ more, ?_⟩
      simp only [StreamingWindow.run, hfirst, hrest, bind, Except.bind]
      rfl

end StreamingWindow

/-! ## The result -/

/-- **A window counts with words**: while the jumps back of each pointer, and one more, times the
window are a word, nothing overflows, whatever the rows are, wherever the ring lies, and whenever it
is filled; and once the jumps back alone times the window are no word, there has been an
overflow. -/
theorem streaming_counts_in_words {c : WindowConfig} {baseRow total : Nat}
    {calls : List WindowCall} {w₀ : StreamingWindow}
    (hnew : StreamingWindow.ofConfig c baseRow total = .ok w₀) (htotal : total < wordLimit) :
    ((∀ kind, (jumpsBack c.window baseRow kind calls + 1) * c.window < wordLimit) →
      ∃ w actions, w₀.run calls = .ok (w, actions) ∧
        ∀ kind, (w.pointer kind).laps = jumpsBack c.window baseRow kind calls) ∧
    ((∃ kind, wordLimit ≤ jumpsBack c.window baseRow kind calls * c.window) →
      w₀.run calls = .error {}) := by
  obtain ⟨hpos, hfeed, hretire⟩ := StreamingWindow.margins_of_ofConfig hnew
  obtain rfl := StreamingWindow.ofConfig_eq_ok hnew
  have hjumps : ∀ kind, StreamingWindow.lapsAfter { config := c, baseRow, total } kind calls =
      jumpsBack c.window baseRow kind calls := by
    intro kind
    cases kind <;> exact Nat.zero_add _
  have hzero : StreamingWindow.LapsInWords { config := c, baseRow, total } := by
    intro kind
    cases kind <;> exact (Nat.zero_mul _).symm ▸ by decide
  constructor
  · intro hlaps
    have hwindow : c.window < wordLimit := by
      have hlap := hlaps .program
      rw [Nat.succ_mul] at hlap
      omega
    have hcounts : StreamingWindow.CountsInWords { config := c, baseRow, total } :=
      ⟨hfeed, Nat.zero_le _, Nat.zero_le _, htotal, show 0 + c.retireMargin < wordLimit by omega⟩
    obtain ⟨w, actions, hrun⟩ := hcounts.run fun kind => by
      rw [hjumps]
      exact hlaps kind
    refine ⟨w, actions, hrun, fun kind => ?_⟩
    rw [(StreamingWindow.run_laps hpos hzero hrun).1, hjumps]
  · rintro ⟨kind, hlarge⟩
    cases hrun : StreamingWindow.run { config := c, baseRow, total } calls with
    | error overflow => rfl
    | ok step =>
        obtain ⟨hcount, hwords⟩ := StreamingWindow.run_laps hpos hzero hrun
        have hword := hwords kind
        rw [hcount, hjumps, (StreamingWindow.run_moves hrun).config_eq] at hword
        exact absurd hword (Nat.not_lt.mpr hlarge)

/-- Slots for a quarter of all words, with the widest margins, a list of as many targets as there
can be, and rows at the end of the words: a late filling and two jumps back do not overflow, and two
more do. -/
theorem streaming_counts_in_words_quarter :
    let quarter := 4611686018427387904
    let base := wordLimit - quarter
    let calls : List WindowCall := [.observe .program (wordLimit - 1), .observe .motion 3, .prime,
      .observe .program base, .observe .program (base + 7), .observe .motion (base + 1),
      .observe .program (base + 6)]
    let more : List WindowCall := [.observe .program base, .observe .program (base + 1),
      .observe .program base]
    ∃ w₀ w actions,
      StreamingWindow.ofConfig ⟨quarter, quarter - 1, quarter - 1⟩ base (wordLimit - 1) = .ok w₀ ∧
      jumpsBack quarter base .program calls = 2 ∧ (2 + 1) * quarter < wordLimit ∧
      w₀.run calls = .ok (w, actions) ∧ w.program.laps = 2 ∧
      jumpsBack quarter base .program (calls ++ more) = 4 ∧ wordLimit ≤ 4 * quarter ∧
      w₀.run (calls ++ more) = .error {} := by
  intro quarter base calls more
  have hnew : StreamingWindow.ofConfig ⟨quarter, quarter - 1, quarter - 1⟩ base (wordLimit - 1) =
      .ok { config := ⟨quarter, quarter - 1, quarter - 1⟩, baseRow := base,
            total := wordLimit - 1 } := rfl
  have hlaps : ∀ kind, (jumpsBack quarter base kind calls + 1) * quarter < wordLimit := by
    intro kind
    cases kind <;> decide
  obtain ⟨w, actions, hrun, hcount⟩ := (streaming_counts_in_words hnew (by decide)).1 hlaps
  have hlarge : ∃ kind, wordLimit ≤ jumpsBack quarter base kind (calls ++ more) * quarter :=
    ⟨.program, by decide⟩
  have hover := (streaming_counts_in_words hnew (by decide)).2 hlarge
  have htwo : jumpsBack quarter base .program calls = 2 := by decide
  exact ⟨_, w, actions, hnew, htwo, by decide, hrun, (hcount .program).trans htwo, by decide,
    by decide, hover⟩

end RobotCell
