import RobotCell.Number.Decimal

/-!
# RobotCell.Data.Datum

Structured data as it stands in data files: scalars, lists, and tables of named fields.

Integers and floats are kept apart, since a field that wants an integer refuses a float.
-/

namespace RobotCell

/-- A value of a data file. -/
inductive Datum where
  | null
  | bool (value : Bool)
  | integer (value : Int)
  | float (value : Binary64)
  | string (text : String)
  | date (text : String)
  | list (items : List Datum)
  | table (fields : List (String × Datum))
  deriving Inhabited

/-- The fields of a table, in order. -/
abbrev Fields := List (String × Datum)

namespace Fields

/-- The value of a field. -/
def get? (fields : Fields) (name : String) : Option Datum := List.lookup name fields

/-- The fields with one set: in its place when it is there, at the end otherwise. -/
def set (fields : Fields) (name : String) (value : Datum) : Fields :=
  match fields with
  | [] => [(name, value)]
  | (n, v) :: rest => if n = name then (n, value) :: rest else (n, v) :: set rest name value

theorem get?_set_self (fields : Fields) (name : String) (value : Datum) :
    (fields.set name value).get? name = some value := by
  induction fields with
  | nil => simp [set, get?]
  | cons f rest ih =>
    obtain ⟨n, v⟩ := f
    unfold set
    split
    · next h => simp [get?, h]
    · next h =>
      simp only [get?] at ih
      have h' : (name == n) = false := by simpa using fun e => h e.symm
      simp [get?, List.lookup_cons, h', ih]

theorem get?_set_of_ne (fields : Fields) {name other : String} (value : Datum)
    (hne : other ≠ name) : (fields.set name value).get? other = fields.get? other := by
  induction fields with
  | nil =>
    have h' : (other == name) = false := by simpa using hne
    simp [set, get?, List.lookup_cons, h']
  | cons f rest ih =>
    obtain ⟨n, v⟩ := f
    simp only [get?] at ih
    unfold set
    split
    · next h =>
      have h' : (other == n) = false := by simpa [h] using hne
      simp [get?, List.lookup_cons, h']
    · simp only [get?, List.lookup_cons]
      split
      · rfl
      · exact ih

end Fields

namespace Datum

/-- The value of a field of a table. -/
def get? (d : Datum) (name : String) : Option Datum :=
  match d with
  | .table fields => Fields.get? fields name
  | _ => none

def fields? : Datum → Option Fields
  | .table fields => some fields
  | _ => none

def items? : Datum → Option (List Datum)
  | .list items => some items
  | _ => none

def string? : Datum → Option String
  | .string text => some text
  | _ => none

def bool? : Datum → Option Bool
  | .bool b => some b
  | _ => none

def integer? : Datum → Option Int
  | .integer i => some i
  | _ => none

/-- A number; an integer counts as the nearest double. -/
def float? : Datum → Option Binary64
  | .float x => some x
  | .integer i => some (.ofInt i)
  | _ => none

/-- An integer below a bound, and not below zero. -/
def natBelow? (limit : Nat) (d : Datum) : Option Nat :=
  match d with
  | .integer i => if 0 ≤ i ∧ i < limit then some i.toNat else none
  | _ => none

end Datum

end RobotCell
