/-!
# RobotCell.Number.Rounding

Rounding of exact magnitudes onto the grid of 53-bit numbers.

A magnitude is a natural number of *units*.  The grid around `n` has the step
`2 ^ (log2 n - 52)`, so that a grid point has at most 53 significant binary digits:

1. `roundHalfEven` takes a quotient to the nearest whole number, a half to the even one;
2. `roundRatio` takes a quotient to the nearest grid point, a half to the even multiple of the step;
3. `roundRoot` takes a square root to the nearest grid point.

`onGrid_roundRatio` and `onGrid_roundRoot` say that the results are grid points, and
`roundRatio_of_onGrid` that a grid point is left alone.
-/

namespace RobotCell

/-! ## The grid -/

/-- The distance between neighbouring grid points at the magnitude `n`. -/
def gridStep (n : Nat) : Nat := Nat.pow 2 (n.log2 - 52)

/-- The first number with more than 53 binary digits. -/
def significandLimit : Nat := Nat.pow 2 53

/-- A magnitude with at most 53 significant binary digits. -/
def OnGrid (n : Nat) : Prop := n % gridStep n = 0

instance (n : Nat) : Decidable (OnGrid n) := inferInstanceAs (Decidable (_ = _))

theorem gridStep_pos (n : Nat) : 0 < gridStep n := Nat.two_pow_pos _

/-- Every magnitude below `2 ^ 53` is on the grid. -/
theorem onGrid_of_lt {n : Nat} (h : n < significandLimit) : OnGrid n := by
  have hlog : n.log2 - 52 = 0 := by
    by_cases hn : n = 0
    · simp [hn]
    · have := (Nat.log2_lt hn).mpr h
      omega
  simp [OnGrid, gridStep, hlog, Nat.mod_one]

/-- A multiple of `2 ^ s` below `2 ^ (s + 53)` is on the grid. -/
theorem onGrid_mul_two_pow {m s : Nat} (h : m < significandLimit) :
    OnGrid (m * Nat.pow 2 s) := by
  by_cases hm : m = 0
  · rw [hm, Nat.zero_mul]
    exact onGrid_of_lt (by decide)
  · have hne : m * 2 ^ s ≠ 0 := Nat.mul_ne_zero hm (Nat.ne_of_gt (Nat.two_pow_pos s))
    have hlt : (m * 2 ^ s).log2 < 53 + s := by
      rw [Nat.log2_lt hne, Nat.pow_add]
      exact Nat.mul_lt_mul_of_pos_right h (Nat.two_pow_pos s)
    have hle : (m * 2 ^ s).log2 - 52 ≤ s := by omega
    exact Nat.mod_eq_zero_of_dvd
      (Nat.dvd_trans (Nat.pow_dvd_pow 2 hle) (Nat.dvd_mul_left _ _))

/-- One step past the last 53-bit multiple of `2 ^ s` is on the grid as well. -/
theorem onGrid_mul_two_pow_of_le {m s : Nat} (h : m ≤ significandLimit) :
    OnGrid (m * Nat.pow 2 s) := by
  by_cases hm : m < significandLimit
  · exact onGrid_mul_two_pow hm
  · have hlimit : m = significandLimit := Nat.le_antisymm h (Nat.le_of_not_lt hm)
    have hshift : m * Nat.pow 2 s = Nat.pow 2 52 * Nat.pow 2 (1 + s) := by
      show m * 2 ^ s = 2 ^ 52 * 2 ^ (1 + s)
      rw [hlimit, Nat.pow_add, ← Nat.mul_assoc]
      rfl
    rw [hshift]
    exact onGrid_mul_two_pow (by decide)

/-! ## Quotients -/

/-- The whole number nearest to `num / den`, the even one of two equally near. -/
def roundHalfEven (num den : Nat) : Nat :=
  let q := num / den
  let twice := 2 * (num % den)
  if twice < den then q
  else if den < twice then q + 1
  else if q % 2 = 0 then q else q + 1

theorem le_roundHalfEven (num den : Nat) : num / den ≤ roundHalfEven num den := by
  simp only [roundHalfEven]
  split
  · exact Nat.le_refl _
  · split
    · exact Nat.le_succ _
    · split
      · exact Nat.le_refl _
      · exact Nat.le_succ _

theorem roundHalfEven_le (num den : Nat) : roundHalfEven num den ≤ num / den + 1 := by
  simp only [roundHalfEven]
  split
  · exact Nat.le_succ _
  · split
    · exact Nat.le_refl _
    · split
      · exact Nat.le_succ _
      · exact Nat.le_refl _

/-- A whole quotient is not moved. -/
theorem roundHalfEven_mul (m : Nat) {den : Nat} (h : 0 < den) :
    roundHalfEven (m * den) den = m := by
  simp [roundHalfEven, Nat.mul_div_cancel m h, h]

/-- The grid point nearest to `num / den`, the even multiple of the step for a half. -/
def roundRatio (num den : Nat) : Nat :=
  let step := gridStep (num / den)
  roundHalfEven num (den * step) * step

/-- The quotient by the step at `n` has at most 53 binary digits. -/
theorem div_gridStep_lt (n : Nat) : n / gridStep n < significandLimit := by
  rw [Nat.div_lt_iff_lt_mul (gridStep_pos n)]
  show n < 2 ^ 53 * 2 ^ (n.log2 - 52)
  rw [← Nat.pow_add]
  exact Nat.lt_of_lt_of_le Nat.lt_log2_self (Nat.pow_le_pow_right (by decide) (by omega))

theorem onGrid_roundRatio (num den : Nat) : OnGrid (roundRatio num den) := by
  apply onGrid_mul_two_pow_of_le
  have h := roundHalfEven_le num (den * gridStep (num / den))
  rw [← Nat.div_div_eq_div_mul] at h
  have := div_gridStep_lt (num / den)
  exact Nat.le_trans h (by omega)

/-- Rounding leaves a grid point alone. -/
theorem roundRatio_of_onGrid {n den : Nat} (hden : 0 < den) (h : OnGrid n) :
    roundRatio (n * den) den = n := by
  have hdvd : gridStep n ∣ n := Nat.dvd_of_mod_eq_zero h
  obtain ⟨m, hm⟩ := hdvd
  simp only [roundRatio, Nat.mul_div_cancel n hden]
  have hnum : n * den = m * (den * gridStep n) := by
    rw [Nat.mul_comm den, ← Nat.mul_assoc, Nat.mul_comm m, ← hm]
  rw [hnum, roundHalfEven_mul m (Nat.mul_pos hden (gridStep_pos n)), Nat.mul_comm, ← hm]

/-- Rounding a positive whole number does not reach zero. -/
theorem roundRatio_one_pos {n : Nat} (h : 0 < n) : 0 < roundRatio n 1 := by
  have hstep : gridStep n ≤ n := by
    have h1 : 2 ^ (n.log2 - 52) ≤ 2 ^ n.log2 := Nat.pow_le_pow_right (by decide) (by omega)
    exact Nat.le_trans h1 (Nat.log2_self_le (Nat.pos_iff_ne_zero.mp h))
  have hq : 0 < n / gridStep n := Nat.div_pos hstep (gridStep_pos n)
  simp only [roundRatio, Nat.div_one, Nat.one_mul]
  exact Nat.mul_pos (Nat.lt_of_lt_of_le hq (le_roundHalfEven _ _)) (gridStep_pos n)

/-! ## Square roots -/

/-- The whole part of the square root, found one base-four digit at a time. -/
def floorRoot (n : Nat) : Nat :=
  if h : n = 0 then 0
  else
    let r := 2 * floorRoot (n / 4)
    if (r + 1) * (r + 1) ≤ n then r + 1 else r
termination_by n
decreasing_by omega

/-- The grid point nearest to the square root of `n`, the even multiple of the step for a half. -/
def roundRoot (n : Nat) : Nat :=
  let step := gridStep (floorRoot n)
  let q := floorRoot n / step
  let middle := (2 * q + 1) * step
  (if middle * middle < 4 * n ∨ middle * middle = 4 * n ∧ q % 2 = 1 then q + 1 else q) * step

theorem onGrid_roundRoot (n : Nat) : OnGrid (roundRoot n) := by
  apply onGrid_mul_two_pow_of_le
  have := div_gridStep_lt (floorRoot n)
  split <;> omega

end RobotCell
