import RobotCell.Number.Word
import RobotCell.Program.Broadcast

/-!
# RobotCell.Program.Splice

Insertion into a sequence by positions of the sequence as it was before.

The `k`-th insertion finds `k` items inserted already and adds that count to its position.  A
position past the end appends its item.  Positions are 64-bit words, and a sum that is no word is
an overflow.
-/

namespace RobotCell

/-- Why a splice gives no sequence. -/
inductive SpliceFault where
  | failure (cause : Failure)
  | overflow
  deriving DecidableEq

/-- Inserts one item after `count` earlier insertions. -/
def insertShifted (out : List α) (count : Nat) (index : Nat) (item : α) :
    Except Overflow (List α) :=
  match checkedAdd index count with
  | .error o => .error o
  | .ok position =>
    if index ≤ out.length + 1 ∧ position ≤ out.length then .ok (out.insertIdx position item)
    else .ok (out ++ [item])

/-- Inserts the items at their positions in turn, continuing after `count` insertions. -/
def insertAll (count : Nat) (out : List α) : List (Nat × α) → Except Overflow (List α)
  | [] => .ok out
  | (index, item) :: rest =>
    match insertShifted out count index item with
    | .error o => .error o
    | .ok out => insertAll (count + 1) out rest

/-- Inserts `items[k]` at `indices[k] + k` for each `k`; the items cycle to their first. -/
def insertAtIndices (sequence items : List α) (indices : List Nat) :
    Except SpliceFault (List α) :=
  match broadcast "items" items indices.length with
  | .error cause => .error (.failure cause)
  | .ok items =>
    match insertAll 0 sequence (indices.zip items) with
    | .error _ => .error .overflow
    | .ok out => .ok out

end RobotCell
