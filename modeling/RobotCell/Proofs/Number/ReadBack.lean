import RobotCell.Number.Shortest

/-!
# RobotCell.Proofs.Number.ReadBack

The text of a number reads back as the number.

The digits that `searchGrids` ends with denote a decimal that rounds to the number
(`reads_back_shortest`): a coarse grid is left only with a point that reads back, and the finest
grid has the number itself.  The positional text denotes the same decimal, up to a power of ten that
moved from the exponent into the digits (`ofDecimal_shift`).  `ofChars?_toChars` puts the two
together for every number, infinities and NaN included.
-/

namespace RobotCell

/-! ## Rounding far out -/

/-- A power of two that a magnitude reaches is reached after rounding. -/
theorem two_pow_le_roundRatio {n k : Nat} (h : Nat.pow 2 k ≤ n) :
    Nat.pow 2 k ≤ roundRatio n 1 := by
  have hn : n ≠ 0 := fun h0 => by
    have := Nat.two_pow_pos k
    simp only [h0] at h
    exact absurd (Nat.le_trans this h) (by decide)
  have hlog : k ≤ n.log2 := (Nat.le_log2 hn).mpr h
  -- the power of two just below `n` is a multiple of the step
  have hstep : gridStep n * Nat.pow 2 (n.log2 - (n.log2 - 52)) = Nat.pow 2 n.log2 := by
    show 2 ^ (n.log2 - 52) * 2 ^ (n.log2 - (n.log2 - 52)) = 2 ^ n.log2
    rw [← Nat.pow_add]
    congr 1
    omega
  have hquot : Nat.pow 2 (n.log2 - (n.log2 - 52)) ≤ n / gridStep n := by
    rw [Nat.le_div_iff_mul_le (gridStep_pos n), Nat.mul_comm, hstep]
    exact Nat.log2_self_le hn
  calc Nat.pow 2 k ≤ Nat.pow 2 n.log2 := Nat.pow_le_pow_right (by decide) hlog
    _ = Nat.pow 2 (n.log2 - (n.log2 - 52)) * gridStep n := by rw [← hstep, Nat.mul_comm]
    _ ≤ n / gridStep n * gridStep n := Nat.mul_le_mul_right _ hquot
    _ ≤ roundRatio n 1 := by
        simp only [roundRatio, Nat.div_one, Nat.one_mul]
        exact Nat.mul_le_mul_right _ (le_roundHalfEven _ _)

/-- The range ends at the number `2 ^ 1024`. -/
theorem unitsLimit_eq : unitsLimit = Nat.pow 2 1024 * unitsPerOne := by
  have hsum : 2098 = 1024 + 1074 := rfl
  unfold unitsLimit unitsPerOne
  -- with variables for the exponents, no power is computed
  generalize 2098 = limit at hsum ⊢
  generalize 1024 = range at hsum ⊢
  generalize 1074 = one at hsum ⊢
  subst hsum
  exact Nat.pow_add 2 range one

theorem unitsPerOne_eq : unitsPerOne = Nat.pow 2 1074 := by
  unfold unitsPerOne
  rfl

theorem ten_pow_pos (e : Nat) : 0 < Nat.pow 10 e := Nat.pow_pos (by decide)

namespace Binary64

theorem ofGrid_of_lt {negative : Bool} {units : Nat} {h : OnGrid units} (hlt : units < unitsLimit) :
    ofGrid negative units h = .finite negative units hlt h := dif_pos hlt

theorem ofGrid_of_le {negative : Bool} {units : Nat} {h : OnGrid units} (hle : unitsLimit ≤ units) :
    ofGrid negative units h = .infinite negative := dif_neg (Nat.not_lt.mpr hle)

/-- A ratio that is a grid point is that number. -/
theorem ofRatio_of_onGrid {negative : Bool} {units den : Nat} (hden : 0 < den)
    (hlt : units < unitsLimit) (h : OnGrid units) :
    ofRatio negative (units * den) den = .finite negative units hlt h := by
  have hround := roundRatio_of_onGrid hden h
  simp only [ofRatio, hround]
  exact ofGrid_of_lt hlt

/-- A ratio past the range is infinite. -/
theorem ofRatio_of_le {negative : Bool} {n : Nat} (h : unitsLimit ≤ n) :
    ofRatio negative n 1 = .infinite negative := by
  refine ofGrid_of_le ?_
  unfold unitsLimit at h ⊢
  generalize 2098 = exponent at h ⊢
  exact two_pow_le_roundRatio h

/-! ## Decimals -/

/-- The sign of a rounded ratio is free. -/
theorem ofRatio_negative {negative : Bool} {num den units : Nat} {hlt : units < unitsLimit}
    {h : OnGrid units} (hread : ofRatio false num den = .finite false units hlt h) :
    ofRatio negative num den = .finite negative units hlt h := by
  by_cases hround : roundRatio num den < unitsLimit
  · rw [ofRatio, ofGrid_of_lt hround] at hread ⊢
    cases hread
    rfl
  · rw [ofRatio, ofGrid_of_le (Nat.not_lt.mp hround)] at hread
    cases hread

/-- The sign of a decimal is the sign of the number. -/
theorem ofDecimal_negative {negative : Bool} {c : Nat} {e : Int} {units : Nat}
    {hlt : units < unitsLimit} {h : OnGrid units}
    (hread : ofDecimal ⟨false, c, e⟩ = .finite false units hlt h) :
    ofDecimal ⟨negative, c, e⟩ = .finite negative units hlt h := by
  unfold ofDecimal at hread ⊢
  dsimp only at hread ⊢
  by_cases hc : c = 0
  · rw [if_pos hc, zero] at hread ⊢
    cases hread
    rfl
  rw [if_neg hc] at hread ⊢
  by_cases he : 0 ≤ e
  · rw [if_pos he] at hread ⊢
    by_cases hlarge : 1024 ≤ (c.log2 : Int) + 3 * e
    · rw [if_pos hlarge] at hread
      cases hread
    · rw [if_neg hlarge] at hread ⊢
      exact ofRatio_negative hread
  · rw [if_neg he] at hread ⊢
    by_cases hsmall : (c.log2 : Int) + 1 + 3 * e < -1075
    · rw [if_pos hsmall, zero] at hread ⊢
      cases hread
      rfl
    · rw [if_neg hsmall] at hread ⊢
      exact ofRatio_negative hread

/-- A whole decimal, whatever its size, is rounded once. -/
theorem ofDecimal_whole {negative : Bool} {c : Nat} (hc : c ≠ 0) :
    ofDecimal ⟨negative, c, 0⟩ = ofRatio negative (c * unitsPerOne) 1 := by
  unfold ofDecimal
  simp only [hc, if_false, Int.le_refl, if_true, Int.mul_zero, Int.add_zero, Int.toNat_zero]
  split
  · rename_i hlarge
    refine (ofRatio_of_le ?_).symm
    have hlog : 1024 ≤ c.log2 := by omega
    rw [unitsLimit_eq]
    generalize 1024 = exponent at hlog ⊢
    have hpow : Nat.pow 2 exponent ≤ c := (Nat.le_log2 hc).mp hlog
    exact Nat.mul_le_mul_right _ hpow
  · show ofRatio negative (c * 1 * unitsPerOne) 1 = _
    rw [Nat.mul_one]

/-- A power of ten may move from the exponent into the coefficient of a number in range. -/
theorem ofDecimal_shift {negative : Bool} {c e units : Nat} {hlt : units < unitsLimit}
    {h : OnGrid units} (hread : ofDecimal ⟨negative, c, (e : Int)⟩ = .finite negative units hlt h) :
    ofDecimal ⟨negative, c * Nat.pow 10 e, 0⟩ = .finite negative units hlt h := by
  by_cases hc : c = 0
  · subst hc
    rw [Nat.zero_mul]
    simpa [ofDecimal] using hread
  · rw [ofDecimal_whole (Nat.mul_ne_zero hc (Nat.ne_of_gt (ten_pow_pos e))), ← hread]
    unfold ofDecimal at hread ⊢
    simp only [hc, if_false, Int.natCast_nonneg, if_true, Int.toNat_natCast] at hread ⊢
    split
    · rename_i hlarge
      rw [if_pos hlarge] at hread
      cases hread
    · rfl

/-- A decimal with a fraction is rounded once when its digits have two bits each. -/
theorem ofDecimal_fraction {negative : Bool} {c k : Nat} (hc : c ≠ 0) (hk : k ≠ 0)
    (hplaces : k ≤ 1076) (hsize : 2 * k ≤ c.log2) :
    ofDecimal ⟨negative, c, -(k : Int)⟩ = ofRatio negative (c * unitsPerOne) (Nat.pow 10 k) := by
  unfold ofDecimal
  have hneg : ¬0 ≤ -(k : Int) := by omega
  have hlarge : ¬(c.log2 : Int) + 1 + 3 * -(k : Int) < -1075 := by omega
  simp only [hc, if_false, hneg, hlarge, Int.neg_neg, Int.toNat_natCast]

end Binary64

/-! ## Whole numbers -/

/-- A whole number of at most 53 binary digits is in range. -/
theorem whole_lt_unitsLimit {n : Nat} (h : n < significandLimit) :
    n * unitsPerOne < unitsLimit := by
  obtain ⟨k, hk, hlimit⟩ : ∃ k, 53 ≤ k ∧ unitsLimit = Nat.pow 2 k * unitsPerOne :=
    ⟨1024, by decide, unitsLimit_eq⟩
  rw [hlimit]
  exact Nat.mul_lt_mul_of_pos_right
    (Nat.lt_of_lt_of_le h (Nat.pow_le_pow_right (by decide) hk)) unitsPerOne_pos

theorem onGrid_whole {n : Nat} (h : n < significandLimit) : OnGrid (n * unitsPerOne) := by
  obtain ⟨k, hone⟩ : ∃ k, unitsPerOne = Nat.pow 2 k := ⟨1074, unitsPerOne_eq⟩
  rw [hone]
  exact onGrid_mul_two_pow h

/-- A whole decimal of at most 53 binary digits is exact. -/
theorem ofDecimal_nat (negative : Bool) {n : Nat} (h : n < significandLimit) :
    Binary64.ofDecimal ⟨negative, n, 0⟩ =
      .finite negative (n * unitsPerOne) (whole_lt_unitsLimit h) (onGrid_whole h) := by
  by_cases hn : n = 0
  · subst hn
    simp only [Binary64.ofDecimal, if_true, Binary64.zero, Nat.zero_mul]
  · have hround := @Binary64.ofRatio_of_onGrid negative _ 1 Nat.one_pos (whole_lt_unitsLimit h)
      (onGrid_whole h)
    rwa [Nat.mul_one, ← Binary64.ofDecimal_whole hn] at hround

/-! ## The search -/

/-- What it means for a grid point to read back. -/
theorem readsBack_iff {units c rank : Nat} :
    readsBack units c rank = true ↔
      ∃ hlt h, Binary64.ofDecimal (gridPoint c rank) = .finite false units hlt h := by
  unfold readsBack
  constructor
  · intro hread
    split at hread
    · rename_i u hlt h heq
      obtain rfl := eq_of_beq hread
      exact ⟨hlt, h, heq⟩
    · contradiction
  · rintro ⟨hlt, h, heq⟩
    rw [heq]
    exact beq_self_eq_true units

/-- A grid gives only points that read back. -/
theorem readsBack_nearestGridPoint? {units rank c : Nat}
    (h : nearestGridPoint? units rank = some c) : readsBack units c rank = true := by
  unfold nearestGridPoint? at h
  dsimp only at h
  split at h
  · split at h
    · obtain rfl := Option.some.inj h
      assumption
    · obtain rfl := Option.some.inj h
      assumption
  · obtain rfl := Option.some.inj h
    assumption
  · obtain rfl := Option.some.inj h
    assumption
  · cases h

theorem mul_five_pow_ne_zero {units : Nat} (h : 0 < units) (k : Nat) : units * Nat.pow 5 k ≠ 0 :=
  Nat.ne_of_gt (Nat.mul_pos h (Nat.pow_pos (by decide)))

/-- A factor of five is more than two bits. -/
theorem le_log2_mul_five_pow {units : Nat} (h : 0 < units) (k : Nat) :
    2 * k ≤ (units * Nat.pow 5 k).log2 := by
  rw [Nat.le_log2 (mul_five_pow_ne_zero h k), Nat.pow_mul]
  calc (2 ^ 2) ^ k ≤ 5 ^ k := Nat.pow_le_pow_left (by decide) k
    _ ≤ units * Nat.pow 5 k := Nat.le_mul_of_pos_left _ h

/-- The grid as fine as a unit has every number itself. -/
theorem ofDecimal_finest {units k : Nat} (hone : unitsPerOne = Nat.pow 2 k) (hk : k ≠ 0)
    (hle : k ≤ 1076) (hpos : 0 < units) (hlt : units < unitsLimit) (h : OnGrid units) :
    Binary64.ofDecimal ⟨false, units * Nat.pow 5 k, -(k : Int)⟩ = .finite false units hlt h := by
  have hunits : units * Nat.pow 5 k * unitsPerOne = units * Nat.pow 10 k := by
    rw [hone, Nat.mul_assoc]
    exact congrArg (units * ·) (Nat.mul_pow 5 2 k).symm
  rw [Binary64.ofDecimal_fraction (mul_five_pow_ne_zero hpos k) hk hle
    (le_log2_mul_five_pow hpos k), hunits]
  exact Binary64.ofRatio_of_onGrid (ten_pow_pos k) hlt h

theorem readsBack_finest {units : Nat} (hpos : 0 < units) (hlt : units < unitsLimit)
    (h : OnGrid units) : readsBack units (units * Nat.pow 5 1074) 0 = true :=
  readsBack_iff.mpr ⟨hlt, h,
    ofDecimal_finest unitsPerOne_eq (by decide) (by decide) hpos hlt h⟩

theorem readsBack_searchGrids {units : Nat} (hpos : 0 < units) (hlt : units < unitsLimit)
    (h : OnGrid units) (rank : Nat) :
    readsBack units (searchGrids units rank).1 (searchGrids units rank).2 = true := by
  induction rank with
  | zero => exact readsBack_finest hpos hlt h
  | succ rank ih =>
      unfold searchGrids
      split
      · rename_i c hpoint
        exact readsBack_nearestGridPoint? hpoint
      · exact ih

/-- The shortest digits denote the number. -/
theorem reads_back_shortest {units : Nat} (hpos : 0 < units) (hlt : units < unitsLimit)
    (h : OnGrid units) :
    Binary64.ofDecimal (gridPoint (shortestDigits units).1 (shortestDigits units).2) =
      .finite false units hlt h := by
  obtain ⟨_, _, heq⟩ := readsBack_iff.mp (readsBack_searchGrids hpos hlt h (startRank units))
  exact heq

/-! ## Reading digits -/

/-- Whatever stops a run of digits. -/
theorem spanDigits_append {digits rest : List Char} (hdigits : ∀ c ∈ digits, c.isDigit = true)
    (hrest : ∀ c ∈ rest.head?, c.isDigit = false) :
    spanDigits (digits ++ rest) = (digits, rest) := by
  unfold spanDigits
  rw [List.takeWhile_append_of_pos hdigits, List.dropWhile_append_of_pos hdigits]
  cases rest with
  | nil => simp
  | cons c rest =>
      have hc : c.isDigit = false := hrest c rfl
      simp [hc]

theorem spanDigits_digits {digits : List Char} (hdigits : ∀ c ∈ digits, c.isDigit = true) :
    spanDigits digits = (digits, []) := by
  have h : spanDigits (digits ++ []) = (digits, []) := spanDigits_append hdigits (by simp)
  rwa [List.append_nil] at h

theorem digitsValue_natDigits (n : Nat) : digitsValue 0 (natDigits n) = n :=
  Nat.ofDigitChars_toDigits (by decide) (by decide)

/-- The text of a number is its digits. -/
theorem toList_toString (n : Nat) : (toString n).toList = natDigits n := Nat.toList_repr

theorem natDigits_ne_nil (n : Nat) : natDigits n ≠ [] := Nat.toDigits_ne_nil

theorem isDigit_of_mem_zeros {n : Nat} {c : Char} (h : c ∈ List.replicate n '0') :
    c.isDigit = true := by
  obtain ⟨-, rfl⟩ := List.mem_replicate.mp h
  rfl

theorem isDigit_of_mem_natDigits {n : Nat} {c : Char} (h : c ∈ natDigits n) : c.isDigit = true :=
  Nat.isDigit_of_mem_toDigits (by decide) (by decide) h

/-- Digits alone are a whole number. -/
theorem readMagnitude?_digits {negative : Bool} {digits : List Char} (hne : digits ≠ [])
    (hdigits : ∀ c ∈ digits, c.isDigit = true) :
    readMagnitude? negative digits = some ⟨negative, digitsValue 0 digits, 0⟩ := by
  simp [readMagnitude?, spanDigits_digits hdigits, spanFraction, readExponent?, hne, digitsValue]

/-- Digits with a point have the value of all digits, scaled by those after the point. -/
theorem readMagnitude?_point {negative : Bool} {whole fraction : List Char} (hne : whole ≠ [])
    (hwhole : ∀ c ∈ whole, c.isDigit = true) (hfraction : ∀ c ∈ fraction, c.isDigit = true) :
    readMagnitude? negative (whole ++ '.' :: fraction) =
      some ⟨negative, digitsValue 0 (whole ++ fraction), -(fraction.length : Int)⟩ := by
  have hspan : spanDigits (whole ++ '.' :: fraction) = (whole, '.' :: fraction) :=
    spanDigits_append hwhole (by simp)
  simp [readMagnitude?, hspan, spanFraction, spanDigits_digits hfraction, readExponent?, hne,
    digitsValue]

/-! ## Reading texts -/

/-- A point in a text of digits scales them. -/
theorem readMagnitude?_insertPoint {negative : Bool} {digits : List Char} (places : Nat)
    (hdigits : ∀ c ∈ digits, c.isDigit = true) :
    readMagnitude? negative (insertPoint digits places) =
      some ⟨negative, digitsValue 0 digits, -(places : Int)⟩ := by
  unfold insertPoint
  extract_lets padded whole
  have hlen : places + 1 ≤ padded.length := by
    simp only [padded, List.length_append, List.length_replicate]
    omega
  have hpadded : ∀ c ∈ padded, c.isDigit = true := by
    intro c hc
    exact (List.mem_append.mp hc).elim isDigit_of_mem_zeros (hdigits c)
  have hvalue : digitsValue 0 padded = digitsValue 0 digits := by
    show Nat.ofDigitChars 10 padded 0 = Nat.ofDigitChars 10 digits 0
    rw [Nat.ofDigitChars_append, Nat.ofDigitChars_replicate_zero, Nat.mul_zero]
  have hne : padded.take whole ≠ [] := by
    intro h
    have := congrArg List.length h
    simp only [List.length_take, List.length_nil, whole] at this
    omega
  rw [readMagnitude?_point hne (fun c hc => hpadded c (List.mem_of_mem_take hc))
    (fun c hc => hpadded c (List.mem_of_mem_drop hc)), List.take_append_drop, hvalue,
    List.length_drop]
  congr 3
  omega

/-- The decimal that a positional text denotes: a grid of whole numbers needs no exponent. -/
def textPoint (negative : Bool) (coefficient rank : Nat) : Decimal :=
  if 1074 ≤ rank then ⟨negative, coefficient * Nat.pow 10 (rank - 1074), 0⟩
  else ⟨negative, coefficient, gridExponent rank⟩

theorem readMagnitude?_positionalText (negative : Bool) (c rank : Nat) :
    readMagnitude? negative (positionalText c rank) = some (textPoint negative c rank) := by
  unfold positionalText textPoint
  split
  · rw [readMagnitude?_digits]
    · rw [show digitsValue 0 (natDigits c ++ List.replicate (rank - 1074) '0') =
          c * Nat.pow 10 (rank - 1074) from ?_]
      show Nat.ofDigitChars 10 (Nat.toDigits 10 c ++ _) 0 = _
      rw [Nat.ofDigitChars_append, Nat.ofDigitChars_replicate_zero,
        Nat.ofDigitChars_toDigits (by decide) (by decide), Nat.mul_comm]
      rfl
    · exact List.append_ne_nil_of_left_ne_nil (natDigits_ne_nil c) _
    · intro d hd
      exact (List.mem_append.mp hd).elim isDigit_of_mem_natDigits isDigit_of_mem_zeros
  · have hexponent : -((1074 - rank : Nat) : Int) = gridExponent rank := by
      unfold gridExponent
      omega
    rw [readMagnitude?_insertPoint _ fun d hd => isDigit_of_mem_natDigits hd,
      digitsValue_natDigits, hexponent]

/-- The text of a grid point that reads back is read as the number. -/
theorem ofDecimal_textPoint {negative : Bool} {c rank units : Nat} {hlt : units < unitsLimit}
    {h : OnGrid units}
    (hread : Binary64.ofDecimal (gridPoint c rank) = .finite false units hlt h) :
    Binary64.ofDecimal (textPoint negative c rank) = .finite negative units hlt h := by
  have hsigned : Binary64.ofDecimal ⟨negative, c, gridExponent rank⟩ =
      .finite negative units hlt h := Binary64.ofDecimal_negative hread
  unfold textPoint
  split
  · have hexponent : gridExponent rank = ((rank - 1074 : Nat) : Int) := by
      unfold gridExponent
      omega
    rw [hexponent] at hsigned
    exact Binary64.ofDecimal_shift hsigned
  · exact hsigned

/-- A finite magnitude is read from its text, with any sign. -/
theorem readMagnitude?_magnitudeText (negative : Bool) {units : Nat} (hlt : units < unitsLimit)
    (h : OnGrid units) :
    ∃ d, readMagnitude? negative (magnitudeText units) = some d ∧
      Binary64.ofDecimal d = .finite negative units hlt h := by
  unfold magnitudeText
  split
  · rename_i hzero
    subst hzero
    exact ⟨⟨negative, 0, 0⟩, rfl, rfl⟩
  · rename_i hpos
    exact ⟨_, readMagnitude?_positionalText negative _ _,
      ofDecimal_textPoint (reads_back_shortest (Nat.pos_of_ne_zero hpos) hlt h)⟩

/-! ## Characters -/

theorem mem_insertPoint {digits : List Char} {places : Nat} {c : Char}
    (h : c ∈ insertPoint digits places) : c ∈ digits ∨ c = '0' ∨ c = '.' := by
  unfold insertPoint at h
  extract_lets padded whole at h
  have hpadded (hc : c ∈ padded) : c ∈ digits ∨ c = '0' ∨ c = '.' := by
    rcases List.mem_append.mp hc with hzero | hdigit
    · exact .inr (.inl (List.eq_of_mem_replicate hzero))
    · exact .inl hdigit
  rcases List.mem_append.mp h with hwhole | hrest
  · exact hpadded (List.mem_of_mem_take hwhole)
  · rcases List.mem_cons.mp hrest with hpoint | hfraction
    · exact .inr (.inr hpoint)
    · exact hpadded (List.mem_of_mem_drop hfraction)

/-- The text of a magnitude is made of digits and a point. -/
theorem mem_magnitudeText {units : Nat} {c : Char} (h : c ∈ magnitudeText units) :
    c.isDigit = true ∨ c = '.' := by
  unfold magnitudeText positionalText at h
  split at h
  · obtain rfl := List.mem_singleton.mp h
    exact .inl rfl
  dsimp only at h
  split at h
  · exact .inl ((List.mem_append.mp h).elim isDigit_of_mem_natDigits isDigit_of_mem_zeros)
  · rcases mem_insertPoint h with hdigit | rfl | rfl
    · exact .inl (isDigit_of_mem_natDigits hdigit)
    · exact .inl rfl
    · exact .inr rfl

/-! ## Numbers -/

/-- A text that starts with neither sign has none. -/
theorem spanSign_of_ne {cs : List Char} (hminus : ∀ c ∈ cs, c ≠ '-') (hplus : ∀ c ∈ cs, c ≠ '+') :
    spanSign cs = (false, cs) := by
  cases cs with
  | nil => rfl
  | cons c rest =>
      have hm := hminus c List.mem_cons_self
      have hp := hplus c List.mem_cons_self
      unfold spanSign
      split <;> simp_all

/-- **The text of a number reads back as the number**, zeros with their sign. -/
theorem ofChars?_toChars (x : Binary64) : Binary64.ofChars? x.toChars = some x := by
  cases x with
  | nan => decide
  | infinite negative => cases negative <;> decide
  | finite negative units hlt h =>
      have hspan : spanSign (Binary64.toChars (.finite negative units hlt h)) =
          (negative, magnitudeText units) := by
        cases negative with
        | true => rfl
        | false =>
            refine spanSign_of_ne ?_ ?_ <;>
            · rintro c hc rfl
              rcases mem_magnitudeText hc with hdigit | hpoint
              · exact absurd hdigit (by decide)
              · exact absurd hpoint (by decide)
      obtain ⟨d, hmagnitude, hread⟩ := readMagnitude?_magnitudeText negative hlt h
      unfold Binary64.ofChars?
      simp only [hspan, hmagnitude, hread]

end RobotCell
