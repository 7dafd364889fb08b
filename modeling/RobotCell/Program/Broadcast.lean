import RobotCell.Failure

/-!
# RobotCell.Program.Broadcast

Short parameter lists cycle to their first element.

A list of parameters is walked beside a longer list of targets.  Past its own end it goes on with
its *first* element, never with the last one seen; a list that is long enough stays as it is.
-/

namespace RobotCell

/-- The list extended to at least `len` elements; `label` names an empty list in the failure. -/
def broadcast (label : String) (list : List α) (len : Nat) : Except Failure (List α) :=
  match list with
  | [] => if len = 0 then .ok [] else .error (.parameterListEmpty label)
  | first :: _ => .ok (list ++ List.replicate (len - list.length) first)

theorem broadcast_zero (label : String) (list : List α) : broadcast label list 0 = .ok list := by
  cases list <;> simp [broadcast]

/-- A list with an element can be extended to any length. -/
theorem broadcast_cons (label : String) (first : α) (rest : List α) (len : Nat) :
    broadcast label (first :: rest) len =
      .ok (first :: rest ++ List.replicate (len - (rest.length + 1)) first) := rfl

end RobotCell
