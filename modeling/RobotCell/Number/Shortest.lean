import RobotCell.Number.Decimal

/-!
# RobotCell.Number.Shortest

The fewest decimal digits that read back as the same double.

The multiples of a power of ten form a grid.  From coarse to fine, the first grid that has a
point reading back as the number gives the digits: the nearer of the two points beside the number,
and the upper one when both are equally near.  The finest grid, `10 ^ -1074`, holds every finite
number exactly, so the search always ends with digits that read back (`reads_back_shortest`).

Text is positional at every size, without an exponent and without a fraction when the number is
whole.
-/

namespace RobotCell

/-! ## Digits -/

/-- The exponent of the grid with the given rank; the finest has rank zero. -/
def gridExponent (rank : Nat) : Int := (rank : Int) - 1074

/-- The decimal point `coefficient · 10 ^ gridExponent rank`. -/
def gridPoint (coefficient rank : Nat) : Decimal := ⟨false, coefficient, gridExponent rank⟩

/-- The count of units of `10 ^ gridExponent rank`, as a quotient. -/
def gridSpacing (rank : Nat) : Nat × Nat :=
  if 1074 ≤ rank then (Nat.pow 10 (rank - 1074) * unitsPerOne, 1)
  else (unitsPerOne, Nat.pow 10 (1074 - rank))

/-- Whether a grid point reads back as the given count of units. -/
def readsBack (units coefficient rank : Nat) : Bool :=
  match Binary64.ofDecimal (gridPoint coefficient rank) with
  | .finite false u _ _ => u == units
  | _ => false

/-- The point of one grid that reads back, the nearer of two and the upper at equal distance. -/
def nearestGridPoint? (units rank : Nat) : Option Nat :=
  let (num, den) := gridSpacing rank
  let below := units * den / num
  let remainder := units * den % num
  match readsBack units below rank, readsBack units (below + 1) rank with
  | true, true => some (if 2 * remainder < num then below else below + 1)
  | true, false => some below
  | false, true => some (below + 1)
  | false, false => none

/-- Searches the grids from a rank down; the finest grid holds the number itself. -/
def searchGrids (units : Nat) : Nat → Nat × Nat
  | 0 => (units * Nat.pow 5 1074, 0)
  | rank + 1 =>
    match nearestGridPoint? units (rank + 1) with
    | some coefficient => (coefficient, rank + 1)
    | none => searchGrids units rank

/-- A rank whose grid is coarser than the number: `0.30103` is just above the decimal logarithm
of two. -/
def startRank (units : Nat) : Nat :=
  (((units.log2 : Int) + 1 - 1074) * 30103 / 100000 + 1 + 1074).toNat

/-- The shortest digits of a positive count of units, with the rank of their grid. -/
def shortestDigits (units : Nat) : Nat × Nat := searchGrids units (startRank units)

/-! ## Text -/

/-- The decimal digits of a whole number. -/
def natDigits (n : Nat) : List Char := Nat.toDigits 10 n

/-- The digits with a point before the last `places`, filled up with zeros in front. -/
def insertPoint (digits : List Char) (places : Nat) : List Char :=
  let padded := List.replicate (places + 1 - digits.length) '0' ++ digits
  let whole := padded.length - places
  padded.take whole ++ '.' :: padded.drop whole

/-- The positional text of `coefficient · 10 ^ gridExponent rank`. -/
def positionalText (coefficient rank : Nat) : List Char :=
  if 1074 ≤ rank then natDigits coefficient ++ List.replicate (rank - 1074) '0'
  else insertPoint (natDigits coefficient) (1074 - rank)

/-- The text of a finite magnitude. -/
def magnitudeText (units : Nat) : List Char :=
  if units = 0 then ['0']
  else
    let (coefficient, rank) := shortestDigits units
    positionalText coefficient rank

/-- The text of a number. -/
def Binary64.toChars : Binary64 → List Char
  | .finite negative units _ _ => (if negative then ['-'] else []) ++ magnitudeText units
  | .infinite negative => (if negative then ['-'] else []) ++ ['i', 'n', 'f']
  | .nan => ['N', 'a', 'N']

/-- The text of a number. -/
def Binary64.toText (x : Binary64) : String := String.ofList x.toChars

instance : ToString Binary64 := ⟨Binary64.toText⟩

end RobotCell
