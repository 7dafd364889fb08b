import RobotCell.Program.Document
import RobotCell.Proofs.Program.Alignment

/-!
# RobotCell.Proofs.Program.Insertion

Insertions succeed unless a position is no word.

The range of an index is checked after its position was computed, and the position is a checked
sum.  Where all positions are words, every insertion is a `placeAt`, which takes a position past the
end for the end (`insertAll_of_fits`); the first position that is none stops the whole splice
(`insertAll_of_overflow`), although the index would only have been past the end.  `splice_outcome`
says which lists of indices succeed, how long the result is and what one more index adds to it.
-/

namespace RobotCell

variable {α : Type}

/-! ## One insertion -/

/-- An item at a position, or at the end where the position is past it. -/
def placeAt (out : List α) (position : Nat) (item : α) : List α :=
  out.take position ++ item :: out.drop position

/-- Placing an item makes a list one longer. -/
theorem length_placeAt (out : List α) (position : Nat) (item : α) :
    (placeAt out position item).length = out.length + 1 := by
  rw [placeAt, List.length_append, List.length_cons, ← Nat.add_assoc, ← List.length_append,
    List.take_append_drop]

/-- Past the end an item is appended. -/
theorem placeAt_of_length_le {out : List α} {position : Nat} (h : out.length ≤ position)
    (item : α) : placeAt out position item = out ++ [item] := by
  rw [placeAt, List.take_of_length_le h, List.drop_eq_nil_of_le h]

/-- Up to the end an item is placed at its position. -/
theorem insertIdx_of_le_length {out : List α} {position : Nat} (h : position ≤ out.length)
    (item : α) : out.insertIdx position item = placeAt out position item := by
  induction out generalizing position with
  | nil =>
      obtain rfl := Nat.le_zero.mp h
      rfl
  | cons first rest ih =>
      cases position with
      | zero => rfl
      | succ position =>
          rw [List.insertIdx_succ_cons, ih (Nat.le_of_succ_le_succ h)]
          rfl

/-- An insertion puts its item at its position when that is a word. -/
theorem insertShifted_of_fits {out : List α} {count index : Nat} (item : α)
    (h : index + count < wordLimit) :
    insertShifted out count index item = .ok (placeAt out (index + count) item) := by
  unfold insertShifted
  rw [checkedAdd_of_lt h]
  by_cases hrange : index ≤ out.length + 1 ∧ index + count ≤ out.length
  · simp only [if_pos hrange, insertIdx_of_le_length hrange.2]
  · -- an index that is out of range has a position past the end
    have hend : out.length ≤ index + count := by omega
    simp only [if_neg hrange, placeAt_of_length_le hend]

/-- A shifted position that is no word is an overflow. -/
theorem insertShifted_of_overflow {out : List α} {count index : Nat} (item : α)
    (h : wordLimit ≤ index + count) : insertShifted out count index item = .error {} := by
  have hword : checkedAdd index count = .error {} := if_neg (Nat.not_lt.mpr h)
  unfold insertShifted
  rw [hword]

/-! ## All insertions -/

/-- Items at their positions in turn, each moved on by the items placed before it. -/
def placeAll (count : Nat) (out : List α) : List (Nat × α) → List α
  | [] => out
  | (index, item) :: rest => placeAll (count + 1) (placeAt out (index + count) item) rest

/-- Each item makes the list one longer. -/
theorem length_placeAll (count : Nat) (out : List α) (inserts : List (Nat × α)) :
    (placeAll count out inserts).length = out.length + inserts.length := by
  induction inserts generalizing count out with
  | nil => rfl
  | cons insert rest ih => rw [placeAll, ih, length_placeAt, List.length_cons]; omega

/-- Items are placed in their order, and those before count. -/
theorem placeAll_append (count : Nat) (out : List α) (first rest : List (Nat × α)) :
    placeAll count out (first ++ rest) =
      placeAll (count + first.length) (placeAll count out first) rest := by
  induction first generalizing count out with
  | nil => rfl
  | cons insert first ih =>
      rw [List.cons_append, placeAll, ih, placeAll, List.length_cons, Nat.add_right_comm,
        Nat.add_assoc]

/-- The positions of indices are words, when `count` insertions came before them. -/
def PositionsFit (count : Nat) (indices : List Nat) : Prop :=
  ∀ k (hk : k < indices.length), indices[k] + (count + k) < wordLimit

theorem positionsFit_nil (count : Nat) : PositionsFit count [] :=
  fun k hk => absurd hk (Nat.not_lt_zero k)

/-- Positions fit one by one, each shifted by those before it. -/
theorem positionsFit_cons_iff {count index : Nat} {indices : List Nat} :
    PositionsFit count (index :: indices) ↔
      index + count < wordLimit ∧ PositionsFit (count + 1) indices := by
  constructor
  · intro h
    refine ⟨h 0 (by simp), fun k hk => ?_⟩
    have hnext := h (k + 1) (by simpa using hk)
    rw [List.getElem_cons_succ] at hnext
    omega
  · rintro ⟨hfirst, hrest⟩ k hk
    cases k with
    | zero => exact hfirst
    | succ k =>
        have hnext := hrest k (by simpa using hk)
        rw [List.getElem_cons_succ]
        omega

/-- Items are placed if all their shifted positions are words. -/
theorem insertAll_of_fits {count : Nat} {out : List α} {inserts : List (Nat × α)}
    (h : PositionsFit count (inserts.map Prod.fst)) :
    insertAll count out inserts = .ok (placeAll count out inserts) := by
  induction inserts generalizing count out with
  | nil => rfl
  | cons insert rest ih =>
      obtain ⟨index, item⟩ := insert
      obtain ⟨hfirst, hrest⟩ := positionsFit_cons_iff.mp h
      simp only [insertAll, insertShifted_of_fits item hfirst]
      exact ih hrest

/-- One shifted position that is no word fails them all. -/
theorem insertAll_of_overflow {count : Nat} {out : List α} {inserts : List (Nat × α)}
    (h : ¬PositionsFit count (inserts.map Prod.fst)) : insertAll count out inserts = .error {} := by
  induction inserts generalizing count out with
  | nil => exact absurd (positionsFit_nil count) h
  | cons insert rest ih =>
      obtain ⟨index, item⟩ := insert
      by_cases hfirst : index + count < wordLimit
      · simp only [insertAll, insertShifted_of_fits item hfirst]
        exact ih fun hrest => h (positionsFit_cons_iff.mpr ⟨hfirst, hrest⟩)
      · simp only [insertAll, insertShifted_of_overflow item (Nat.not_lt.mp hfirst)]

/-! ## Splices -/

/-- Each index with its item; items that run out go on with the first. -/
def insertions (first : α) (rest : List α) (indices : List Nat) : List (Nat × α) :=
  indices.mapIdx fun k index => (index, (first :: rest).getD k first)

/-- Items are placed at the positions that were given. -/
theorem fst_insertions (first : α) (rest : List α) (indices : List Nat) :
    (insertions first rest indices).map Prod.fst = indices := by
  refine List.ext_getElem? fun k => ?_
  simp [insertions, Function.comp_def]

/-- An entry past the end of a list is its first. -/
theorem entryAt?_cons (first : α) (rest : List α) (k : Nat) :
    entryAt? (first :: rest) k = some ((first :: rest).getD k first) := by
  unfold entryAt?
  split
  · rename_i hk
    simp [List.getD, List.getElem?_eq_getElem hk]
  · rename_i hk
    simp [List.getD, List.getElem?_eq_none (Nat.not_lt.mp hk)]

/-- A splice conducts its insertions. -/
theorem insertAtIndices_cons (sequence rest : List α) (first : α) (indices : List Nat) :
    insertAtIndices sequence (first :: rest) indices =
      match insertAll 0 sequence (insertions first rest indices) with
      | .error _ => .error .overflow
      | .ok out => .ok out := by
  obtain ⟨items, hitems⟩ : ∃ items,
      broadcast "items" (first :: rest) indices.length = .ok items := ⟨_, broadcast_cons ..⟩
  have hzip : indices.zip items = insertions first rest indices := by
    refine List.ext_getElem? fun k => ?_
    by_cases hk : k < indices.length
    · have hitem := getElem?_of_broadcast hitems hk
      rw [entryAt?_cons] at hitem
      have hpair := List.getElem?_zip_eq_some (z := (indices[k], (first :: rest).getD k first)).mpr
        ⟨List.getElem?_eq_getElem hk, hitem⟩
      simp [hpair, insertions, List.getElem?_eq_getElem hk]
    · have hend : indices.length ≤ k := Nat.not_lt.mp hk
      have hzip : (indices.zip items).length ≤ k := by
        rw [List.length_zip]
        exact Nat.le_trans (Nat.min_le_left ..) hend
      have hmap : (insertions first rest indices).length ≤ k := by
        rw [insertions, List.length_mapIdx]
        exact hend
      rw [List.getElem?_eq_none hzip, List.getElem?_eq_none hmap]
  rw [insertAtIndices, hitems]
  simp only [hzip]
  cases insertAll 0 sequence (insertions first rest indices) <;> rfl

/-- The items of a list are placed, its first one for those that are missing. -/
theorem insertAtIndices_of_fits {indices : List Nat} (sequence rest : List α) (first : α)
    (h : PositionsFit 0 indices) :
    insertAtIndices sequence (first :: rest) indices =
      .ok (placeAll 0 sequence (insertions first rest indices)) := by
  rw [insertAtIndices_cons, insertAll_of_fits ((fst_insertions first rest indices).symm ▸ h)]

/-- A shifted position that is no word is an overflow. -/
theorem insertAtIndices_of_overflow {indices : List Nat} (sequence rest : List α) (first : α)
    (h : ¬PositionsFit 0 indices) :
    insertAtIndices sequence (first :: rest) indices = .error .overflow := by
  rw [insertAtIndices_cons, insertAll_of_overflow ((fst_insertions first rest indices).symm ▸ h)]

/-- Where the items were placed their positions fit. -/
theorem positionsFit_of_ok {indices : List Nat} {sequence rest result : List α} {first : α}
    (h : insertAtIndices sequence (first :: rest) indices = .ok result) :
    PositionsFit 0 indices := by
  refine Classical.byContradiction fun hfit => ?_
  rw [insertAtIndices_of_overflow _ _ _ hfit] at h
  cases h

/-- Another position fits if it does when shifted by all before it. -/
theorem positionsFit_concat {indices : List Nat} {index : Nat} (h : PositionsFit 0 indices)
    (hindex : index + indices.length < wordLimit) : PositionsFit 0 (indices ++ [index]) := by
  intro k hk
  by_cases hin : k < indices.length
  · rw [List.getElem_append_left hin]
    exact h k hin
  · rw [List.length_append, List.length_singleton] at hk
    obtain rfl : k = indices.length := by omega
    rw [List.getElem_append_right (Nat.le_refl _)]
    simpa using hindex

/-- What a splice of items into a sequence does at every list of indices. -/
structure Splices (sequence items : List α)
    (splice : List Nat → Except SpliceFault (List α)) : Prop where
  fits : ∀ indices, PositionsFit 0 indices →
    ∃ result, splice indices = .ok result ∧ result.length = sequence.length + indices.length
  overflows : ∀ indices, ¬PositionsFit 0 indices → splice indices = .error .overflow
  places : ∀ indices index result, splice indices = .ok result →
    index + indices.length < wordLimit →
    ∃ item, entryAt? items indices.length = some item ∧
      splice (indices ++ [index]) = .ok (placeAt result (index + indices.length) item) ∧
      (sequence.length ≤ index → splice (indices ++ [index]) = .ok (result ++ [item]))

/-- What the insertion does is the splice of the items. -/
theorem splices_insertAtIndices (sequence : List α) {items : List α} (hitems : items ≠ []) :
    Splices sequence items (insertAtIndices sequence items) := by
  obtain ⟨first, rest, rfl⟩ := List.exists_cons_of_ne_nil hitems
  refine ⟨fun indices h => ⟨_, insertAtIndices_of_fits sequence rest first h, ?_⟩,
    fun indices h => insertAtIndices_of_overflow sequence rest first h,
    fun indices index result hresult hindex =>
      ⟨(first :: rest).getD indices.length first, entryAt?_cons .., ?_⟩⟩
  · rw [length_placeAll, insertions, List.length_mapIdx]
  · have hfits := positionsFit_of_ok hresult
    obtain rfl := Except.ok.inj
      ((insertAtIndices_of_fits sequence rest first hfits).symm.trans hresult)
    have hplaced : insertAtIndices sequence (first :: rest) (indices ++ [index]) =
        .ok (placeAt (placeAll 0 sequence (insertions first rest indices))
          (index + indices.length) ((first :: rest).getD indices.length first)) := by
      rw [insertAtIndices_of_fits sequence rest first (positionsFit_concat hfits hindex)]
      simp only [insertions, List.mapIdx_concat, placeAll_append, List.length_mapIdx, placeAll,
        Nat.zero_add]
    refine ⟨hplaced, fun hend => ?_⟩
    have hlength : (placeAll 0 sequence (insertions first rest indices)).length ≤
        index + indices.length := by
      rw [length_placeAll, insertions, List.length_mapIdx]
      omega
    rw [hplaced, placeAt_of_length_le hlength]

/-- **A splice succeeds at exactly the lists of indices whose positions are words.**

The position of the `k`-th index is the index moved on by the `k` insertions before it.  Where all
positions are words, each index adds one element, at its position or, for an index past the end of
the sequence, at the end; where one is not, the sum of index and count overflows and there is no
result.  Statements are wrapped as lines of a routine and spliced in the same way. -/
theorem splice_outcome {sequence items : List α} {instructions bodies : List String}
    (hitems : items ≠ []) (hbodies : bodies ≠ []) :
    Splices sequence items (insertAtIndices sequence items) ∧
      Splices instructions (bodies.map routineLine) (insertStatements instructions bodies) :=
  ⟨splices_insertAtIndices sequence hitems,
    splices_insertAtIndices instructions (mt List.map_eq_nil_iff.mp hbodies)⟩

/-- Three indices, the second past the end, and fewer items than indices. -/
theorem splice_outcome_three_indices :
    ["x", "y"] ≠ [] ∧ PositionsFit 0 [1, 9, 0] ∧
      (∃ result, insertAtIndices ["a", "b"] ["x", "y"] [1, 9, 0] = .ok result ∧
        result.length = 5 ∧ result = ["a", "x", "x", "b", "y"]) ∧
      ∃ result, insertStatements ["a", "b"] ["x", "y"] [1, 9, 0] = .ok result ∧
        result.length = 5 := by
  have hitems : ["x", "y"] ≠ [] := by decide
  have hfits : PositionsFit 0 [1, 9, 0] := by
    simp only [positionsFit_cons_iff, positionsFit_nil, wordLimit]
    decide
  obtain ⟨hitem, hstatement⟩ := @splice_outcome _ ["a", "b"] _ ["a", "b"] _ hitems hitems
  obtain ⟨result, hresult, hlength⟩ := hitem.fits [1, 9, 0] hfits
  have hvalue : insertAtIndices ["a", "b"] ["x", "y"] [1, 9, 0] =
      .ok ["a", "x", "x", "b", "y"] := rfl
  exact ⟨hitems, hfits,
    ⟨result, hresult, hlength, Except.ok.inj (hresult.symm.trans hvalue)⟩,
    hstatement.fits [1, 9, 0] hfits⟩

/-- The last word as the second index has no position, so nothing is spliced. -/
theorem no_splice_at_last_word :
    (∀ index ∈ [0, 18446744073709551615], index < wordLimit) ∧
      insertAtIndices ["a"] ["x"] [0, 18446744073709551615] = .error .overflow ∧
      insertStatements ["a"] ["x"] [0, 18446744073709551615] = .error .overflow :=
  ⟨by decide, rfl, rfl⟩

end RobotCell
