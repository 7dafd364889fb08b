import RobotCell.Proofs.Streaming.Ideal

/-!
# RobotCell.Proofs.Streaming.Supply

A robot that runs on loaded targets is always given the next one.

Feeding waits for retiring, and each is brought on by its own pointer only, so margins that are too
large would leave both pointers waiting at the last loaded target.  A window whose pointers keep to
the targets fed so far (`Driven`) counts with words only (`Supplied.perform_eq`), and the two
sightings at its last loaded target move its counters far enough: the program pointer retires all
but `retireMargin` targets, and what the motion pointer may then feed ends one window less the
greater margin further on (`stream_supplied`).
-/

namespace RobotCell

/-! ## Sightings one by one -/

/-- Where a pointer is after a sighting. -/
def Sighting.after (kind : PointerKind) (last : Nat) (s : Sighting) : Nat :=
  (s.position? kind).getD last

/-- A pointer is steady when it is at its next sighting and from there on. -/
theorem steady_positions_cons_iff {window last : Nat} {kind : PointerKind} {s : Sighting}
    {rest : List Sighting} :
    Steady window last (positions kind (s :: rest)) ↔
      (∀ position, s.position? kind = some position →
        last ≤ position ∧ position < last + window) ∧
      Steady window (s.after kind last) (positions kind rest) := by
  unfold positions Sighting.after
  cases hposition : s.position? kind with
  | none => simp [hposition]
  | some position => simp [hposition, Steady, and_assoc]

/-- A position is one of a target that has been fed. -/
def Sighting.Loaded (fed : Nat) : Sighting → Prop
  | .inside _ position => position < fed
  | .outside _ _ => True

instance (fed : Nat) : DecidablePred (Sighting.Loaded fed)
  | .inside _ position => inferInstanceAs (Decidable (position < fed))
  | .outside _ _ => .isTrue trivial

namespace StreamingWindow

variable {w : StreamingWindow} {program motion : Nat} {s : Sighting} {seen rest : List Sighting}

/-- Every position that is seen is one of a target that has been fed by then. -/
def OnLoaded (w : StreamingWindow) : List Sighting → Prop
  | [] => True
  | s :: rest => s.Loaded w.fed ∧
    match w.perform (s.call w.config.window w.baseRow) with
    | .ok (w, _) => w.OnLoaded rest
    | .error _ => True

instance OnLoaded.decidable : ∀ (w : StreamingWindow) seen, Decidable (w.OnLoaded seen)
  | _, [] => .isTrue trivial
  | w, s :: rest =>
    have : Decidable (match w.perform (s.call w.config.window w.baseRow) with
        | .ok (w, _) => w.OnLoaded rest
        | .error _ => True) :=
      match w.perform (s.call w.config.window w.baseRow) with
      | .ok (w, _) => OnLoaded.decidable w rest
      | .error _ => .isTrue trivial
    inferInstanceAs (Decidable (s.Loaded w.fed ∧ _))

/-- What is seen, from two positions on, of a robot that runs on loaded targets. -/
structure Driven (w : StreamingWindow) (program motion : Nat) (seen : List Sighting) : Prop where
  program_steady : Steady w.config.window program (positions .program seen)
  motion_steady : Steady w.config.window motion (positions .motion seen)
  truthful : ∀ s ∈ seen, s.Truthful w.config.window w.baseRow
  on_loaded : w.OnLoaded seen

/-- The window after a sighting. -/
def saw (w : StreamingWindow) : Sighting → StreamingWindow
  | .inside .program position =>
    { w with
      retired := w.ideal.retiredAt position
      program := ⟨some (position % w.config.window), position / w.config.window⟩ }
  | .inside .motion position =>
    { w with
      fed := w.ideal.fedAt position
      motion := ⟨some (position % w.config.window), position / w.config.window⟩ }
  | .outside _ _ => w

/-! ## Counters -/

@[simp] theorem saw_config (w : StreamingWindow) (s : Sighting) : (w.saw s).config = w.config := by
  rcases s with ⟨_ | _, position⟩ | ⟨kind, row⟩ <;> rfl

@[simp] theorem saw_baseRow (w : StreamingWindow) (s : Sighting) :
    (w.saw s).baseRow = w.baseRow := by
  rcases s with ⟨_ | _, position⟩ | ⟨kind, row⟩ <;> rfl

@[simp] theorem saw_total (w : StreamingWindow) (s : Sighting) : (w.saw s).total = w.total := by
  rcases s with ⟨_ | _, position⟩ | ⟨kind, row⟩ <;> rfl

/-- Sightings change none of what a window was made with, and its counters only grow. -/
structure Grows (w w' : StreamingWindow) : Prop where
  config_eq : w'.config = w.config
  baseRow_eq : w'.baseRow = w.baseRow
  total_eq : w'.total = w.total
  fed_le : w.fed ≤ w'.fed
  retired_le : w.retired ≤ w'.retired

theorem saw_grows (w : StreamingWindow) (s : Sighting) : w.Grows (w.saw s) where
  config_eq := saw_config w s
  baseRow_eq := saw_baseRow w s
  total_eq := saw_total w s
  fed_le := by
    rcases s with ⟨_ | _, position⟩ | ⟨kind, row⟩
    · exact Nat.le_refl _
    · exact Nat.le_max_left _ _
    · exact Nat.le_refl _
  retired_le := by
    rcases s with ⟨_ | _, position⟩ | ⟨kind, row⟩
    · exact Nat.le_max_left _ _
    · exact Nat.le_refl _
    · exact Nat.le_refl _

theorem foldl_saw_grows (w : StreamingWindow) (seen : List Sighting) :
    w.Grows (seen.foldl saw w) := by
  induction seen generalizing w with
  | nil => exact ⟨rfl, rfl, rfl, Nat.le_refl _, Nat.le_refl _⟩
  | cons s rest ih =>
      have hfirst := saw_grows w s
      have hrest := ih (w.saw s)
      exact ⟨hrest.config_eq.trans hfirst.config_eq, hrest.baseRow_eq.trans hfirst.baseRow_eq,
        hrest.total_eq.trans hfirst.total_eq, Nat.le_trans hfirst.fed_le hrest.fed_le,
        Nat.le_trans hfirst.retired_le hrest.retired_le⟩

/-! ## Words -/

/-- A window between two sightings that has counted with words and goes on to. -/
structure Supplied (w : StreamingWindow) (program motion : Nat) : Prop
    extends w.Seen program motion where
  retireMargin_le : w.config.retireMargin ≤ w.config.feedMargin
  total_lt : w.total < wordLimit
  retired_add_lt : w.retired + w.config.retireMargin < wordLimit

/-- Every target that a program pointer on loaded targets retires, and the next one, is a word with
the margin added: the pointer is that far past the targets it retires. -/
theorem Supplied.add_retireMargin_lt (h : w.Supplied program motion) {position k : Nat}
    (hloaded : position < w.fed) (hk : k ≤ w.ideal.retiredAt position) :
    k + w.config.retireMargin < wordLimit := by
  -- a counter that moves ends the margin behind the position, and one that does not is as before
  have hretired := h.retired_add_lt
  have htotal := h.total_lt
  have hfed := h.fed_le
  have hmargins := h.retireMargin_le
  simp only [IdealWindow.retiredAt, ideal] at hk
  omega

/-- A sighting of a robot on loaded targets is answered. -/
theorem Supplied.perform_eq (h : w.Supplied program motion)
    (hseen : w.Driven program motion (s :: rest)) :
    w.perform (s.call w.config.window w.baseRow) = .ok (w.saw s, (w.ideal.see s).2) := by
  have htotal : True → w.total < wordLimit := fun _ => h.total_lt
  have hfed := h.fed_le
  cases s with
  | outside kind row => exact observe_outside (hseen.truthful _ List.mem_cons_self)
  | inside kind position =>
      have hloaded : position < w.fed := hseen.on_loaded.1
      have hword : True → position < wordLimit := fun _ => by
        have := h.total_lt
        omega
      cases kind with
      | program =>
          obtain ⟨hle, hlt⟩ := (steady_positions_cons_iff.mp hseen.program_steady).1 position rfl
          exact (observe_program_gives h.toPrimed h.program_at hle hlt hword htotal
            fun _ k _ hk => h.add_retireMargin_lt hloaded hk).eq_ok trivial
      | motion =>
          obtain ⟨hle, hlt⟩ := (steady_positions_cons_iff.mp hseen.motion_steady).1 position rfl
          exact (observe_motion_gives h.toPrimed h.motion_at hle hlt hword htotal).eq_ok trivial

/-- A sighting of a robot on loaded targets keeps the window supplied. -/
theorem Supplied.saw (h : w.Supplied program motion)
    (hseen : w.Driven program motion (s :: rest)) :
    (w.saw s).Supplied (s.after .program program) (s.after .motion motion) := by
  cases s with
  | outside kind row => exact h
  | inside kind position =>
      cases kind with
      | program =>
          refine ⟨h.seeProgram, h.retireMargin_le, h.total_lt, ?_⟩
          exact h.add_retireMargin_lt hseen.on_loaded.1 (Nat.le_refl _)
      | motion => exact ⟨h.seeMotion, h.retireMargin_le, h.total_lt, h.retired_add_lt⟩

/-- What is seen after the first sighting is seen of a robot on loaded targets. -/
theorem Supplied.driven_tail (h : w.Supplied program motion)
    (hseen : w.Driven program motion (s :: rest)) :
    (w.saw s).Driven (s.after .program program) (s.after .motion motion) rest := by
  have hloaded := hseen.on_loaded.2
  rw [h.perform_eq hseen] at hloaded
  refine ⟨?_, ?_, ?_, hloaded⟩
  · rw [saw_config]
    exact (steady_positions_cons_iff.mp hseen.program_steady).2
  · rw [saw_config]
    exact (steady_positions_cons_iff.mp hseen.motion_steady).2
  · rw [saw_config, saw_baseRow]
    exact fun s hs => hseen.truthful s (List.mem_cons_of_mem _ hs)

/-- A window answers all sightings of a robot on loaded targets. -/
theorem Supplied.run_eq (h : w.Supplied program motion)
    (hseen : w.Driven program motion (seen ++ rest)) :
    (∃ actions, w.run (seen.map (·.call w.config.window w.baseRow)) =
      .ok (seen.foldl StreamingWindow.saw w, actions)) ∧
    ∃ program' motion', (seen.foldl StreamingWindow.saw w).Supplied program' motion' ∧
      (seen.foldl StreamingWindow.saw w).Driven program' motion' rest := by
  induction seen generalizing w program motion with
  | nil => exact ⟨⟨[], rfl⟩, program, motion, h, hseen⟩
  | cons s seen ih =>
      obtain ⟨⟨actions, hrun⟩, hafter⟩ := ih (h.saw hseen) (h.driven_tail hseen)
      rw [saw_config, saw_baseRow] at hrun
      refine ⟨⟨(w.ideal.see s).2 ++ actions, ?_⟩, hafter⟩
      rw [List.map_cons, run, h.perform_eq hseen]
      simp only [bind, Except.bind, hrun]
      rfl

theorem Supplied.run_all (h : w.Supplied program motion) (hseen : w.Driven program motion seen) :
    ∃ actions, w.run (seen.map (·.call w.config.window w.baseRow)) =
      .ok (seen.foldl StreamingWindow.saw w, actions) := by
  rw [← List.append_nil seen] at hseen
  exact (h.run_eq hseen).1

/-! ## The last loaded target -/

/-- The program pointer at the last loaded target leaves at most its margin to be retired. -/
theorem fed_le_retiredAt_last (hpos : 0 < w.fed) :
    w.fed ≤ w.ideal.retiredAt (w.fed - 1) + w.config.retireMargin := by
  simp only [IdealWindow.retiredAt, ideal]
  omega

/-- The motion pointer at the last loaded target feeds when at most a margin is to be retired. -/
theorem fed_lt_fedAt_last (h : w.Supplied program motion) (hpos : 0 < w.fed)
    (hleft : w.fed < w.total) (hretired : w.fed ≤ w.retired + w.config.retireMargin) :
    w.fed < w.ideal.fedAt (w.fed - 1) := by
  have hfeed := h.feedMargin_lt
  have hretire := h.retireMargin_le
  simp only [IdealWindow.fedAt, ideal]
  omega

/-- The two sightings at the last loaded target make the counter of feeds move. -/
theorem Supplied.feeds_next (h : w.Supplied program motion) (hleft : w.fed < w.total)
    {between : List Sighting}
    (hseen : w.Driven program motion
      (.inside .program (w.fed - 1) :: (between ++ [.inside .motion (w.fed - 1)]))) :
    w.fed < ((between.foldl StreamingWindow.saw (w.saw (.inside .program (w.fed - 1)))).saw
      (.inside .motion (w.fed - 1))).fed := by
  have hpos : 0 < w.fed := by
    have hfilled := h.filled
    have hwindow := h.window_pos
    omega
  have hafter := h.driven_tail hseen
  obtain ⟨_, program', motion', hsupplied, -⟩ := (h.saw hseen).run_eq hafter
  have hgrows := foldl_saw_grows (w.saw (.inside .program (w.fed - 1))) between
  generalize between.foldl StreamingWindow.saw (w.saw (.inside .program (w.fed - 1))) = v
    at hsupplied hgrows ⊢
  have hfed : w.fed ≤ v.fed := hgrows.fed_le
  rcases Nat.eq_or_lt_of_le hfed with hsame | hmore
  · -- nothing was fed in between, so what the program pointer retired is still all but a margin
    have hretired : w.ideal.retiredAt (w.fed - 1) ≤ v.retired := hgrows.retired_le
    have hconfig : v.config = w.config := hgrows.config_eq.trans (saw_config ..)
    have htotal : v.total = w.total := hgrows.total_eq.trans (saw_total ..)
    have hlast := fed_le_retiredAt_last hpos
    have hlt := fed_lt_fedAt_last hsupplied (hsame ▸ hpos) (by omega)
      (by rw [hconfig]; omega)
    rw [← hsame] at hlt
    exact hlt
  · exact Nat.lt_of_lt_of_le hmore (saw_grows v _).fed_le

end StreamingWindow

/-! ## The result -/

/-- **The stream never starves**: a window of words that has filled its ring answers whatever is
seen of a robot that runs on loaded targets; and while targets are left, once the program pointer
and after it the motion pointer have been seen at the last loaded target, the next target has been
fed, for all margins that are accepted. -/
theorem stream_supplied {c : WindowConfig} {baseRow total : Nat} {w₀ : StreamingWindow}
    (hnew : StreamingWindow.ofConfig c baseRow total = .ok w₀) (hwindow : c.window < wordLimit)
    (htotal : total < wordLimit) :
    ∃ primed fill, w₀.prime = .ok (primed, fill) ∧ ∀ seen, primed.Driven 0 0 seen →
      ∃ w actions, primed.run (seen.map (·.call c.window baseRow)) = .ok (w, actions) ∧
        (w.fed < total → ∀ between,
          primed.Driven 0 0 (seen ++
            .inside .program (w.fed - 1) :: (between ++ [.inside .motion (w.fed - 1)])) →
          ∃ w' more,
            w.run ((.inside .program (w.fed - 1) ::
              (between ++ [.inside .motion (w.fed - 1)])).map (·.call c.window baseRow)) =
              .ok (w', more) ∧
            w.fed < w'.fed ∧ .feed (w.fed % c.window) w.fed ∈ more) := by
  obtain ⟨hpos, hfeed, hretire⟩ := StreamingWindow.margins_of_ofConfig hnew
  obtain rfl := StreamingWindow.ofConfig_eq_ok hnew
  let primed : StreamingWindow := { config := c, baseRow, total, fed := min total c.window }
  have hprime : Gives True (StreamingWindow.prime { config := c, baseRow, total })
      (primed, IdealWindow.feeds c.window 0 (min total c.window)) :=
    StreamingWindow.prime_fills hpos fun _ => htotal
  have hsupplied : primed.Supplied 0 0 :=
    ⟨.primed hfeed, hretire, htotal, show 0 + c.retireMargin < wordLimit by omega⟩
  refine ⟨_, _, hprime.eq_ok trivial, fun seen hseen => ?_⟩
  obtain ⟨actions, hrun⟩ := hsupplied.run_all hseen
  refine ⟨_, actions, hrun, fun hleft between hnext => ?_⟩
  have hgrows := StreamingWindow.foldl_saw_grows primed seen
  obtain ⟨-, program, motion, hafter, hdriven⟩ := hsupplied.run_eq hnext
  generalize seen.foldl StreamingWindow.saw primed = w at hgrows hleft hdriven hafter ⊢
  obtain ⟨more, hmore⟩ := hafter.run_all hdriven
  have hfed := hafter.feeds_next (hgrows.total_eq ▸ hleft) hdriven
  have hring := (StreamingWindow.run_moves hmore).ring
  rw [hgrows.config_eq, hgrows.baseRow_eq] at hmore
  rw [hgrows.config_eq] at hring
  simp only [List.foldl_cons, List.foldl_append, List.foldl_nil] at hmore hring
  exact ⟨_, more, hmore, hfed, hring.feed_mem_iff.mpr ⟨Nat.le_refl _, hfed⟩⟩

/-- Three slots for five targets with the widest margins: the pointers stop at the fourth target, in
their second lap, and the fifth is fed. -/
theorem stream_supplied_widest_margins :
    ∃ w₀ primed fill w actions w' more,
      StreamingWindow.ofConfig ⟨3, 2, 2⟩ 10 5 = .ok w₀ ∧ w₀.prime = .ok (primed, fill) ∧
      primed.run [.observe .program 12, .observe .motion 99, .observe .motion 12] =
        .ok (w, actions) ∧
      w.fed = 4 ∧
      w.run [.observe .program 10, .observe .motion 12, .observe .motion 10] = .ok (w', more) ∧
      4 < w'.fed ∧ .feed 1 4 ∈ more := by
  obtain ⟨primed, fill, hprime, hsupplied⟩ :=
    @stream_supplied ⟨3, 2, 2⟩ 10 5 _ rfl (by decide) (by decide)
  obtain rfl : (⟨⟨3, 2, 2⟩, 10, 5, 3, 0, {}, {}⟩ : StreamingWindow) = primed :=
    congrArg Prod.fst (Except.ok.inj hprime)
  obtain ⟨w, actions, hrun, hnext⟩ := hsupplied
    [.inside .program 2, .outside .motion 99, .inside .motion 2]
    ⟨by decide, by decide, by decide, by decide⟩
  obtain rfl : (⟨⟨3, 2, 2⟩, 10, 5, 4, 1, ⟨some 2, 0⟩, ⟨some 2, 0⟩⟩ : StreamingWindow) = w :=
    congrArg Prod.fst (Except.ok.inj hrun)
  obtain ⟨w', more, hmore, hfed, hfeed⟩ := hnext (by decide) [.inside .motion 2]
    ⟨by decide, by decide, by decide, by decide⟩
  exact ⟨_, _, fill, _, actions, w', more, rfl, hprime, hrun, rfl, hmore, hfed, hfeed⟩

end RobotCell
