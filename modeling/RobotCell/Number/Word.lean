/-!
# RobotCell.Number.Word

Sizes and positions are 64-bit words with checked arithmetic: a sum or product that does not fit
is an `Overflow`, which no caller recovers from.
-/

namespace RobotCell

/-- The first number that is not a 64-bit word. -/
def wordLimit : Nat := 18446744073709551616

/-- A result does not fit a 64-bit word. -/
structure Overflow where
  deriving DecidableEq

/-- The number itself when it is a word. -/
def checkedWord (n : Nat) : Except Overflow Nat := if n < wordLimit then .ok n else .error {}

/-- A sum that is a word. -/
def checkedAdd (a b : Nat) : Except Overflow Nat := checkedWord (a + b)

/-- A product that is a word. -/
def checkedMul (a b : Nat) : Except Overflow Nat := checkedWord (a * b)

/-- A difference that is not below zero. -/
def checkedSub (a b : Nat) : Except Overflow Nat := if b ≤ a then .ok (a - b) else .error {}

/-- A remainder by something other than zero. -/
def checkedMod (a b : Nat) : Except Overflow Nat := if b = 0 then .error {} else .ok (a % b)

/-- A sequence succeeds when both of its parts do. -/
theorem bind_eq_ok_iff {ε α β : Type} {x : Except ε α} {f : α → Except ε β} {b : β} :
    (x >>= f) = .ok b ↔ ∃ a, x = .ok a ∧ f a = .ok b := by
  cases x with
  | error e => simp [bind, Except.bind]
  | ok a => simp [bind, Except.bind]

/-- A number is kept as a word just when it is one. -/
theorem checkedWord_eq_ok_iff {n m : Nat} :
    checkedWord n = .ok m ↔ n < wordLimit ∧ m = n := by
  unfold checkedWord
  split
  · simp_all [eq_comm]
  · simp_all only [Nat.not_lt, reduceCtorEq, false_iff, not_and]
    omega

/-- A sum succeeds just when it is a word. -/
theorem checkedAdd_eq_ok_iff {a b m : Nat} :
    checkedAdd a b = .ok m ↔ a + b < wordLimit ∧ m = a + b :=
  checkedWord_eq_ok_iff

/-- A remainder succeeds just when there is something to divide by. -/
theorem checkedMod_eq_ok_iff {a b m : Nat} : checkedMod a b = .ok m ↔ b ≠ 0 ∧ m = a % b := by
  by_cases hb : b = 0
  · simp [checkedMod, hb]
  · simp [checkedMod, hb, eq_comm]

theorem checkedWord_of_lt {n : Nat} (h : n < wordLimit) : checkedWord n = .ok n := by
  simp [checkedWord, h]

theorem checkedAdd_of_lt {a b : Nat} (h : a + b < wordLimit) : checkedAdd a b = .ok (a + b) :=
  checkedWord_of_lt h

theorem checkedSub_of_le {a b : Nat} (h : b ≤ a) : checkedSub a b = .ok (a - b) := by
  simp [checkedSub, h]

theorem checkedMod_of_ne_zero {a b : Nat} (h : b ≠ 0) : checkedMod a b = .ok (a % b) := by
  simp [checkedMod, h]

end RobotCell
