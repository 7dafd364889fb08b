import RobotCell.Number.Rounding

/-!
# RobotCell.Number.Binary64

Double-precision numbers as exact values.

A finite number is a sign and a whole count of *units* of `2 ^ -1074`, the distance of the
smallest positive number from zero.  A count belongs to a number iff it has at most 53
significant binary digits and stays below `2 ^ 2098`; both facts are part of the value, so equal
numbers are equal terms.  The two zeros are told apart by their sign, and there is one NaN.

Arithmetic is exact arithmetic on units followed by one rounding to nearest (`ofRatio`).
-/

namespace RobotCell

/-- The units in the number one. -/
@[irreducible] def unitsPerOne : Nat := Nat.pow 2 1074

/-- The first count of units past the finite range. -/
@[irreducible] def unitsLimit : Nat := Nat.pow 2 2098

theorem unitsPerOne_pos : 0 < unitsPerOne := by
  unfold unitsPerOne
  -- the power itself is never computed
  generalize 1074 = exponent
  exact Nat.two_pow_pos exponent

theorem unitsLimit_pos : 0 < unitsLimit := by
  unfold unitsLimit
  generalize 2098 = exponent
  exact Nat.two_pow_pos exponent

/-- A double-precision number. -/
inductive Binary64 where
  | finite (negative : Bool) (units : Nat) (inRange : units < unitsLimit) (onGrid : OnGrid units)
  | infinite (negative : Bool)
  | nan
  deriving DecidableEq

namespace Binary64

/-! ## Building numbers -/

/-- The number with the given grid magnitude, infinite past the range. -/
def ofGrid (negative : Bool) (units : Nat) (h : OnGrid units) : Binary64 :=
  if inRange : units < unitsLimit then .finite negative units inRange h else .infinite negative

/-- The number nearest to `num / den` units, ties to even, infinite past the range. -/
def ofRatio (negative : Bool) (num den : Nat) : Binary64 :=
  ofGrid negative (roundRatio num den) (onGrid_roundRatio num den)

/-- The zero of a sign. -/
def zero (negative : Bool) : Binary64 :=
  .finite negative 0 unitsLimit_pos (onGrid_of_lt (by decide))

/-- The number nearest to a whole number. -/
def ofNat (n : Nat) : Binary64 := ofRatio false (n * unitsPerOne) 1

/-- The number nearest to an integer. -/
def ofInt (i : Int) : Binary64 := ofRatio (i < 0) (i.natAbs * unitsPerOne) 1

instance (n : Nat) : OfNat Binary64 n := ⟨ofNat n⟩

instance : Inhabited Binary64 := ⟨zero false⟩

/-! ## Classes -/

/-- Neither infinite nor NaN. -/
def isFinite : Binary64 → Bool
  | .finite .. => true
  | _ => false

/-- Zero of either sign. -/
def isZero : Binary64 → Bool
  | .finite _ units _ _ => units == 0
  | _ => false

/-- The integer that a number is, for a finite number without a fraction. -/
def toInt? : Binary64 → Option Int
  | .finite negative units _ _ =>
    if units % unitsPerOne = 0 then
      let whole : Int := (units / unitsPerOne : Nat)
      some (if negative then -whole else whole)
    else none
  | _ => none

/-- Zero without a sign, and every other number as it is. -/
def dropZeroSign (x : Binary64) : Binary64 := if x.isZero then zero false else x

/-! ## Order -/

/-- The count of units with its sign. -/
def signedUnits (negative : Bool) (units : Nat) : Int := if negative then -(units : Int) else units

/-- Strictly less; never with NaN, and never between the two zeros. -/
def lt : Binary64 → Binary64 → Bool
  | .nan, _ => false
  | _, .nan => false
  | .finite s m _ _, .finite t n _ _ => signedUnits s m < signedUnits t n
  | .infinite s, .infinite t => s && !t
  | .infinite s, .finite .. => s
  | .finite .., .infinite t => !t

/-- Less or equal; never with NaN, and between the two zeros both ways. -/
def le : Binary64 → Binary64 → Bool
  | .nan, _ => false
  | _, .nan => false
  | .finite s m _ _, .finite t n _ _ => signedUnits s m ≤ signedUnits t n
  | .infinite s, .infinite t => s || !t
  | .infinite s, .finite .. => s
  | .finite .., .infinite t => !t

instance : LT Binary64 := ⟨fun x y => x.lt y = true⟩

instance : LE Binary64 := ⟨fun x y => x.le y = true⟩

instance (x y : Binary64) : Decidable (x < y) := inferInstanceAs (Decidable (_ = true))

instance (x y : Binary64) : Decidable (x ≤ y) := inferInstanceAs (Decidable (_ = true))

/-! ## Arithmetic -/

/-- The number with the opposite sign. -/
def neg : Binary64 → Binary64
  | .finite s m h g => .finite (!s) m h g
  | .infinite s => .infinite (!s)
  | .nan => .nan

/-- The number without its sign. -/
def abs : Binary64 → Binary64
  | .finite _ m h g => .finite false m h g
  | .infinite _ => .infinite false
  | .nan => .nan

/-- The rounded sum; an exact zero is negative only when both summands are. -/
def add : Binary64 → Binary64 → Binary64
  | .nan, _ => .nan
  | _, .nan => .nan
  | .finite s m _ _, .finite t n _ _ =>
    let sum := signedUnits s m + signedUnits t n
    if sum = 0 then zero (s && t) else ofRatio (sum < 0) sum.natAbs 1
  | .infinite s, .infinite t => if s = t then .infinite s else .nan
  | .infinite s, .finite .. => .infinite s
  | .finite .., .infinite t => .infinite t

/-- The rounded difference. -/
def sub (x y : Binary64) : Binary64 := x.add y.neg

/-- The rounded product. -/
def mul : Binary64 → Binary64 → Binary64
  | .nan, _ => .nan
  | _, .nan => .nan
  | .finite s m _ _, .finite t n _ _ => ofRatio (s != t) (m * n) unitsPerOne
  | .infinite s, .infinite t => .infinite (s != t)
  | .infinite s, .finite t n _ _ => if n = 0 then .nan else .infinite (s != t)
  | .finite s m _ _, .infinite t => if m = 0 then .nan else .infinite (s != t)

/-- The rounded square root; NaN below zero, and a zero keeps its sign. -/
def sqrt : Binary64 → Binary64
  | .finite s m _ _ =>
    if m = 0 then zero s
    else if s then .nan
    else ofGrid false (roundRoot (m * unitsPerOne)) (onGrid_roundRoot _)
  | .infinite false => .infinite false
  | .infinite true => .nan
  | .nan => .nan

instance : Neg Binary64 := ⟨neg⟩

instance : Add Binary64 := ⟨add⟩

instance : Sub Binary64 := ⟨sub⟩

instance : Mul Binary64 := ⟨mul⟩

end Binary64

end RobotCell
