import RobotCell.Proofs.Program.Alignment

/-!
# RobotCell.Proofs.Program.Cycling

Extending a list by its first element, position by position.

`cycle` walks over the positions up to a length, and appends the first element whenever the walk has
come to the end of the list, which has grown since it began.  A step keeps `Cycled`: the list is as
long as the walk has come, and has its own entry at every old position and its first at every new
one. There is only one such list, so that the walk ends with what `broadcast` writes down at once.
-/

namespace RobotCell

variable {α : Type}

/-! ## The walk -/

/-- The walk at a position: at the end of the list, its first element is appended. -/
def cycleAt (label : String) (list : List α) (i : Nat) : Except Failure (List α) :=
  if i = list.length then
    match list with
    | [] => .error (.parameterListEmpty label)
    | first :: _ => .ok (list ++ [first])
  else .ok list

/-- The walk over the positions up to a length. -/
def cycle (label : String) (list : List α) (len : Nat) : Except Failure (List α) :=
  (List.range len).foldlM (cycleAt label) list

/-- One step of the loop adds one element. -/
theorem cycle_succ (label : String) (list : List α) (len : Nat) :
    cycle label list (len + 1) = (cycle label list len).bind (cycleAt label · len) := by
  rw [cycle, List.range_succ, List.foldlM_append]
  refine congrArg (Except.bind (cycle label list len)) (funext fun out => ?_)
  rw [List.foldlM_cons]
  cases cycleAt label out len <;> rfl

/-! ## What it keeps -/

/-- A list extended to a length by its first entry. -/
structure Cycled (list : List α) (len : Nat) (out : List α) : Prop where
  length_eq : out.length = max list.length len
  entry_eq : ∀ i, i < out.length → out[i]? = entryAt? list i

namespace Cycled

theorem refl (list : List α) : Cycled list 0 list :=
  ⟨(Nat.max_eq_left (Nat.zero_le _)).symm, fun _ hi => (if_pos hi).symm⟩

/-- There is only one list that cycles to a length. -/
theorem eq {list out other : List α} {len : Nat} (h : Cycled list len out)
    (hother : Cycled list len other) : out = other := by
  have hlen : out.length = other.length := h.length_eq.trans hother.length_eq.symm
  refine List.ext_getElem? fun i => ?_
  by_cases hi : i < out.length
  · exact (h.entry_eq i hi).trans (hother.entry_eq i (hlen ▸ hi)).symm
  · rw [List.getElem?_eq_none (by omega), List.getElem?_eq_none (by omega)]

/-- A step of the walk extends the list by one position, if the walk has come to its end. -/
theorem step {list out : List α} {i : Nat} (h : Cycled list i out) (hne : list ≠ [])
    (label : String) : ∃ next, cycleAt label out i = .ok next ∧ Cycled list (i + 1) next := by
  have hpos : 0 < list.length := List.length_pos_iff.mpr hne
  have hlen := h.length_eq
  by_cases hend : i = out.length
  · -- the list is longer than it was, or as long: what is appended is its own first entry
    have hfirst : out[0]? = list[0]? := (h.entry_eq 0 (by omega)).trans (if_pos hpos)
    cases out with
    | nil => rw [List.length_nil] at hlen; omega
    | cons first rest =>
        refine ⟨first :: rest ++ [first], if_pos hend, ?_, fun j hj => ?_⟩
        · rw [List.length_append, List.length_singleton]
          omega
        · rw [List.length_append, List.length_singleton] at hj
          by_cases hold : j < (first :: rest).length
          · rw [List.getElem?_append_left hold, h.entry_eq j hold]
          · obtain rfl : j = (first :: rest).length := by omega
            rw [List.getElem?_concat_length, entryAt?, if_neg (by omega), ← hfirst]
            rfl
  · have hshort : i < list.length := by omega
    exact ⟨out, if_neg hend, by omega, h.entry_eq⟩

end Cycled

/-- A list with an element is extended to any length. -/
theorem exists_cycle {list : List α} (hne : list ≠ []) (label : String) (len : Nat) :
    ∃ out, cycle label list len = .ok out ∧ Cycled list len out := by
  induction len with
  | zero => exact ⟨list, rfl, Cycled.refl list⟩
  | succ len ih =>
      obtain ⟨out, hout, hcycled⟩ := ih
      obtain ⟨next, hnext, hmore⟩ := hcycled.step hne label
      exact ⟨next, by rw [cycle_succ, hout]; exact hnext, hmore⟩

/-- An empty list has no element to go on with: the walk fails at its first position. -/
theorem cycle_nil (label : String) (len : Nat) :
    cycle label ([] : List α) (len + 1) = .error (.parameterListEmpty label) := by
  induction len with
  | zero => rfl
  | succ len ih => rw [cycle_succ, ih]; rfl

/-- An empty list cannot be extended. -/
theorem broadcast_nil (label : String) {len : Nat} (hlen : 0 < len) :
    broadcast label ([] : List α) len = .error (.parameterListEmpty label) := by
  rw [broadcast, if_neg (Nat.ne_of_gt hlen)]

/-- What a list is extended to cycles. -/
theorem cycled_of_broadcast {label : String} {list out : List α} {len : Nat}
    (h : broadcast label list len = .ok out) (hne : list ≠ []) : Cycled list len out := by
  cases list with
  | nil => exact absurd rfl hne
  | cons first rest =>
      obtain rfl := Except.ok.inj ((broadcast_cons label first rest len).symm.trans h)
      refine ⟨by simp; omega, fun i hi => ?_⟩
      by_cases hin : i < (first :: rest).length
      · rw [List.getElem?_append_left hin, entryAt?, if_pos hin]
      · exact getElem?_of_broadcast h (by simp at hi hin; omega)

/-- A list is extended to what the loop makes of it. -/
theorem broadcast_eq_cycle (label : String) (list : List α) (len : Nat) :
    broadcast label list len = cycle label list len := by
  cases list with
  | nil =>
      cases len with
      | zero => rfl
      | succ len => exact (broadcast_nil label len.succ_pos).trans (cycle_nil label len).symm
  | cons first rest =>
      have hne : first :: rest ≠ [] := List.cons_ne_nil first rest
      obtain ⟨out, hout, hcycled⟩ := exists_cycle hne label len
      have hbroadcast := broadcast_cons label first rest len
      rw [hout, hbroadcast, (cycled_of_broadcast hbroadcast hne).eq hcycled]

/-! ## Main theorem -/

/-- **A parameter list cycles to its first element.**  Only an empty list that has to grow is
refused, under its own name; any other becomes as long as is asked, or stays as long as it is, with
its own entry at each of its positions and its first entry at every later one.  That is what the
walk along the growing list comes to. -/
theorem broadcast_cycles (label : String) (list : List α) (len : Nat) :
    (broadcast label list len = .error (.parameterListEmpty label) ↔ list = [] ∧ 0 < len) ∧
    ((∃ out, broadcast label list len = .ok out ∧ out.length = max list.length len ∧
        ∀ i, i < out.length → out[i]? = if i < list.length then list[i]? else list[0]?) ↔
      ¬(list = [] ∧ 0 < len)) ∧
    broadcast label list len = cycle label list len := by
  have hok (hlist : ¬(list = [] ∧ 0 < len)) :
      ∃ out, broadcast label list len = .ok out ∧ Cycled list len out := by
    by_cases hne : list = []
    · obtain rfl : len = 0 := Nat.eq_zero_of_not_pos fun hlen => hlist ⟨hne, hlen⟩
      exact ⟨list, broadcast_zero label list, Cycled.refl list⟩
    · rw [broadcast_eq_cycle]
      exact exists_cycle hne label len
  have herror (hlist : list = [] ∧ 0 < len) :
      broadcast label list len = .error (.parameterListEmpty label) := by
    obtain ⟨rfl, hlen⟩ := hlist
    exact broadcast_nil label hlen
  refine ⟨⟨fun h => ?_, herror⟩, ⟨?_, fun hlist => ?_⟩, broadcast_eq_cycle label list len⟩
  · refine Classical.byContradiction fun hlist => ?_
    obtain ⟨out, hout, -⟩ := hok hlist
    cases h.symm.trans hout
  · rintro ⟨out, hout, -⟩ hlist
    cases hout.symm.trans (herror hlist)
  · obtain ⟨out, hout, hcycled⟩ := hok hlist
    exact ⟨out, hout, hcycled.length_eq, hcycled.entry_eq⟩

example : broadcast "speed" [5, 7] 5 = .ok [5, 7, 5, 5, 5] := rfl

end RobotCell
