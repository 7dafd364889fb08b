import RobotCell.Proofs.Number.ReadBack

/-!
# RobotCell.Proofs.Number.Distance

The distance between two numbers, exact and rounded.

A finite number is a whole count of units, so the exact distance of two is a natural number
(`gap`), and the rounded difference without its sign is that distance rounded once (`abs_sub`).
Rounding keeps the order of distances but may make different ones equal: `roundedUnits` is the
distance that is left, with everything past the range in one place.  It never takes a distance to
zero.
-/

namespace RobotCell

/-! ## Rounding keeps the order -/

/-- Rounding to the nearest keeps the order of two fractions with one denominator. -/
theorem roundHalfEven_mono {m n den : Nat} (h : m ≤ n) :
    roundHalfEven m den ≤ roundHalfEven n den := by
  have hdiv : m / den ≤ n / den := Nat.div_le_div_right h
  rcases Nat.eq_or_lt_of_le hdiv with hsame | hlt
  · -- the same whole part, so the order is that of the remainders
    have hrest : m % den ≤ n % den := by
      have hm := Nat.div_add_mod m den
      have hn := Nat.div_add_mod n den
      rw [hsame] at hm
      omega
    simp only [roundHalfEven, hsame]
    repeat' split
    all_goals omega
  · calc roundHalfEven m den ≤ m / den + 1 := roundHalfEven_le m den
      _ ≤ n / den := hlt
      _ ≤ roundHalfEven n den := le_roundHalfEven n den

/-- Rounding does not pass the next power of two. -/
theorem roundRatio_le_two_pow (n : Nat) : roundRatio n 1 ≤ Nat.pow 2 (n.log2 + 1) := by
  have hstep : Nat.pow 2 (n.log2 + 1) = Nat.pow 2 (n.log2 + 1 - (n.log2 - 52)) * gridStep n := by
    show 2 ^ (n.log2 + 1) = 2 ^ (n.log2 + 1 - (n.log2 - 52)) * 2 ^ (n.log2 - 52)
    rw [← Nat.pow_add]
    congr 1
    omega
  have hquot : n / gridStep n < Nat.pow 2 (n.log2 + 1 - (n.log2 - 52)) := by
    rw [Nat.div_lt_iff_lt_mul (gridStep_pos n), ← hstep]
    exact Nat.lt_log2_self
  have hround := roundHalfEven_le n (gridStep n)
  simp only [roundRatio, Nat.div_one, Nat.one_mul]
  rw [hstep]
  exact Nat.mul_le_mul_right _ (Nat.le_trans hround hquot)

/-- Rounding a whole number keeps the order. -/
theorem roundRatio_mono {m n : Nat} (h : m ≤ n) : roundRatio m 1 ≤ roundRatio n 1 := by
  by_cases hm : m = 0
  · rw [hm]
    simp [roundRatio, roundHalfEven]
  · have hn : n ≠ 0 := by omega
    have hlog : m.log2 ≤ n.log2 := (Nat.le_log2 hn).mpr (Nat.le_trans (Nat.log2_self_le hm) h)
    rcases Nat.eq_or_lt_of_le hlog with hsame | hlt
    · have hstep : gridStep m = gridStep n := by rw [gridStep, gridStep, hsame]
      simp only [roundRatio, Nat.div_one, Nat.one_mul, hstep]
      exact Nat.mul_le_mul_right _ (roundHalfEven_mono h)
    · -- a power of two lies between the two magnitudes, and rounding passes it on neither side
      have hpow : Nat.pow 2 (m.log2 + 1) ≤ n := (Nat.le_log2 hn).mp hlt
      exact Nat.le_trans (roundRatio_le_two_pow m) (two_pow_le_roundRatio hpow)

/-- A count of units after rounding; every count past the range is the end of the range. -/
def roundedUnits (n : Nat) : Nat := min (roundRatio n 1) unitsLimit

/-- A greater distance is never rounded to a smaller one. -/
theorem roundedUnits_mono {m n : Nat} (h : m ≤ n) : roundedUnits m ≤ roundedUnits n := by
  have hround := roundRatio_mono h
  unfold roundedUnits
  omega

/-- Rounding does not take a count to zero. -/
theorem roundedUnits_eq_zero_iff {n : Nat} : roundedUnits n = 0 ↔ n = 0 := by
  have hlimit := unitsLimit_pos
  unfold roundedUnits
  constructor
  · intro h
    rcases Nat.eq_zero_or_pos n with hzero | hpos
    · exact hzero
    · have hround := roundRatio_one_pos hpos
      omega
  · rintro rfl
    simp [roundRatio, roundHalfEven]

namespace Binary64

/-! ## Units -/

/-- The exact count of units with its sign; infinities and NaN have none. -/
def toUnits : Binary64 → Int
  | .finite negative units _ _ => signedUnits negative units
  | _ => 0

/-- Finite numbers are in the order of their distances from zero in least units. -/
theorem lt_iff_toUnits {x y : Binary64} (hx : x.isFinite = true) (hy : y.isFinite = true) :
    x < y ↔ x.toUnits < y.toUnits := by
  show x.lt y = true ↔ _
  cases x <;> cases y <;> simp_all [isFinite, toUnits, lt]

/-- So are numbers that may be equal. -/
theorem le_iff_toUnits {x y : Binary64} (hx : x.isFinite = true) (hy : y.isFinite = true) :
    x ≤ y ↔ x.toUnits ≤ y.toUnits := by
  show x.le y = true ↔ _
  cases x <;> cases y <;> simp_all [isFinite, toUnits, le]

/-! ## Distances -/

/-- The exact distance of two numbers in units. -/
def gap (x y : Binary64) : Nat := (x.toUnits - y.toUnits).natAbs

/-- The sign is no part of the rounding. -/
theorem abs_ofRatio (negative : Bool) (num den : Nat) :
    (ofRatio negative num den).abs = ofRatio false num den := by
  unfold ofRatio ofGrid
  split <;> rfl

/-- The other sign gives the opposite distance. -/
theorem signedUnits_not (negative : Bool) (units : Nat) :
    signedUnits (!negative) units = -signedUnits negative units := by
  cases negative <;> simp [signedUnits]

/-- The rounded difference of two numbers without its sign is their distance rounded once. -/
theorem abs_sub {x y : Binary64} (hx : x.isFinite = true) (hy : y.isFinite = true) :
    (x - y).abs = ofRatio false (x.gap y) 1 := by
  cases x with
  | infinite | nan => cases hx
  | finite s m hm gm =>
      cases y with
      | infinite | nan => cases hy
      | finite t n hn gn =>
          have hsum : signedUnits s m + signedUnits (!t) n = signedUnits s m - signedUnits t n := by
            rw [signedUnits_not, Int.sub_eq_add_neg]
          show ((Binary64.finite s m hm gm).add (.finite (!t) n hn gn)).abs = _
          simp only [add, hsum, gap, toUnits]
          by_cases hzero : signedUnits s m - signedUnits t n = 0
          · rw [if_pos hzero, hzero]
            have hgrid : ofRatio false (0 * 1) 1 = zero false :=
              ofRatio_of_onGrid Nat.one_pos unitsLimit_pos (onGrid_of_lt (by decide))
            exact hgrid.symm
          · rw [if_neg hzero, abs_ofRatio]

/-- Rounded distances are in the order of what they are rounded to. -/
theorem ofRatio_le_iff {m n : Nat} :
    ofRatio false m 1 ≤ ofRatio false n 1 ↔ roundedUnits m ≤ roundedUnits n := by
  show (ofRatio false m 1).le (ofRatio false n 1) = true ↔ _
  by_cases hm : roundRatio m 1 < unitsLimit <;> by_cases hn : roundRatio n 1 < unitsLimit
  all_goals simp only [ofRatio, ofGrid, roundedUnits, hm, hn, dite_true, dite_false, le,
    signedUnits, Bool.false_eq_true, if_false, decide_eq_true_eq, Bool.or_true, Bool.not_false,
    true_iff, false_iff]
  all_goals omega

/-- A rounded distance is less than another just when it is rounded to less. -/
theorem ofRatio_lt_iff {m n : Nat} :
    ofRatio false m 1 < ofRatio false n 1 ↔ roundedUnits m < roundedUnits n := by
  show (ofRatio false m 1).lt (ofRatio false n 1) = true ↔ _
  by_cases hm : roundRatio m 1 < unitsLimit <;> by_cases hn : roundRatio n 1 < unitsLimit
  all_goals simp only [ofRatio, ofGrid, roundedUnits, hm, hn, dite_true, dite_false, lt,
    signedUnits, Bool.false_eq_true, if_false, decide_eq_true_eq, Bool.false_and, Bool.not_false,
    true_iff, false_iff]
  all_goals omega

/-- Two distances that are rounded alike are one number. -/
theorem ofRatio_eq_iff {m n : Nat} :
    ofRatio false m 1 = ofRatio false n 1 ↔ roundedUnits m = roundedUnits n := by
  by_cases hm : roundRatio m 1 < unitsLimit <;> by_cases hn : roundRatio n 1 < unitsLimit
  all_goals simp only [ofRatio, ofGrid, roundedUnits, hm, hn, dite_true, dite_false,
    finite.injEq, true_and, reduceCtorEq, false_iff, true_iff]
  all_goals omega

end Binary64

end RobotCell
