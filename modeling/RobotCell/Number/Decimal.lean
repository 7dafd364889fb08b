import RobotCell.Number.Binary64
import RobotCell.Number.Word

/-!
# RobotCell.Number.Decimal

Decimal text read as the nearest double.

```
number   = [sign] (decimal | "inf" | "infinity" | "nan")        the words in any case
decimal  = (digits ["." [digits]] | "." digits) [("e" | "E") [sign] digits]
sign     = "+" | "-"
```

`Decimal` is the exact value of a decimal text; `Binary64.ofDecimal` rounds it once.
-/

namespace RobotCell

/-! ## Exact decimals -/

/-- The exact value `± coefficient · 10 ^ exponent`. -/
structure Decimal where
  negative : Bool
  coefficient : Nat
  exponent : Int
  deriving DecidableEq

/-- The double nearest to a decimal, ties to even.

Two tests keep the powers of ten small: `10 ^ e` is at least `2 ^ (3 e)`, so a large exponent is
past the range, and a small one is below half a unit. -/
def Binary64.ofDecimal (d : Decimal) : Binary64 :=
  if d.coefficient = 0 then .zero d.negative
  else
    let size : Int := d.coefficient.log2
    if 0 ≤ d.exponent then
      if 1024 ≤ size + 3 * d.exponent then .infinite d.negative
      else .ofRatio d.negative (d.coefficient * Nat.pow 10 d.exponent.toNat * unitsPerOne) 1
    else
      if size + 1 + 3 * d.exponent < -1075 then .zero d.negative
      else .ofRatio d.negative (d.coefficient * unitsPerOne) (Nat.pow 10 (-d.exponent).toNat)

instance : OfScientific Binary64 where
  ofScientific coefficient negativeExponent exponent :=
    .ofDecimal ⟨false, coefficient, if negativeExponent then -(exponent : Int) else exponent⟩

/-! ## Reading digits -/

/-- The value of a decimal digit. -/
def digitValue (c : Char) : Nat := c.toNat - '0'.toNat

/-- The value of a run of decimal digits, most significant first, continuing from `start`. -/
def digitsValue (start : Nat) (digits : List Char) : Nat :=
  digits.foldl (fun n c => 10 * n + digitValue c) start

/-- A text split after its leading decimal digits. -/
def spanDigits (cs : List Char) : List Char × List Char :=
  (cs.takeWhile Char.isDigit, cs.dropWhile Char.isDigit)

/-- A leading sign, and whether it is a minus. -/
def spanSign : List Char → Bool × List Char
  | '-' :: rest => (true, rest)
  | '+' :: rest => (false, rest)
  | cs => (false, cs)

/-- The exponent part that ends a decimal text, zero when there is none. -/
def readExponent? : List Char → Option Int
  | [] => some 0
  | c :: rest =>
    if c = 'e' ∨ c = 'E' then
      let (negative, digits) := spanSign rest
      if digits ≠ [] ∧ digits.all Char.isDigit then
        let n : Int := digitsValue 0 digits
        some (if negative then -n else n)
      else none
    else none

/-- The fraction digits that follow a point, and the text after them. -/
def spanFraction : List Char → List Char × List Char
  | '.' :: rest => spanDigits rest
  | cs => ([], cs)

/-- An unsigned decimal text: at least one digit before or after the point. -/
def readMagnitude? (negative : Bool) (cs : List Char) : Option Decimal :=
  let (whole, rest) := spanDigits cs
  let (fraction, rest) := spanFraction rest
  if whole = [] ∧ fraction = [] then none
  else (readExponent? rest).map fun e =>
    ⟨negative, digitsValue (digitsValue 0 whole) fraction, e - fraction.length⟩

/-! ## Reading numbers -/

/-- The same letters in lower case; other characters stay. -/
def lowerAscii (cs : List Char) : List Char := cs.map Char.toLower

/-- Reads a whole text as a number. -/
def Binary64.ofChars? (cs : List Char) : Option Binary64 :=
  let (negative, magnitude) := spanSign cs
  match readMagnitude? negative magnitude with
  | some d => some (.ofDecimal d)
  | none =>
    let word := lowerAscii magnitude
    if word = ['i', 'n', 'f'] ∨ word = ['i', 'n', 'f', 'i', 'n', 'i', 't', 'y'] then
      some (.infinite negative)
    else if word = ['n', 'a', 'n'] then some .nan
    else none

/-- Reads a whole text as a 64-bit word; a plus may stand before its digits. -/
def readWord? (cs : List Char) : Option Nat :=
  let digits := match cs with
    | '+' :: rest => rest
    | cs => cs
  if digits ≠ [] ∧ digits.all Char.isDigit then
    let n := digitsValue 0 digits
    if n < wordLimit then some n else none
  else none

/-- Reads a whole text as an integer: a 64-bit word, or the negative of a half of them. -/
def readInteger? (cs : List Char) : Option Int :=
  match cs with
  | '-' :: digits =>
    if digits ≠ [] ∧ digits.all Char.isDigit then
      let n := digitsValue 0 digits
      if 2 * n ≤ wordLimit then some (-(n : Int)) else none
    else none
  | cs => (readWord? cs).map Int.ofNat

/-- Reads a whole text as a number. -/
def Binary64.ofString? (s : String) : Option Binary64 := ofChars? s.toList

end RobotCell
