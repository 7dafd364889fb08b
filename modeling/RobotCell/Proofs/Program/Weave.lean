import Mathlib.Data.List.Induction
import RobotCell.Proofs.Program.Insertion

/-!
# RobotCell.Proofs.Program.Weave

What a splice leaves.

One insertion keeps the order of what is there, so the sequence stays a part of the result and the
inserted items are the rest (`exists_interleaves_placeAll`).  The items come in the order of their
insertion only where the indices do not fall: then every item stands immediately before the element
that its index numbers in the sequence as it was, and the items of one index follow one another
(`placeAll_eq_weave`).
-/

namespace RobotCell

variable {α : Type}

/-! ## Interleavings -/

/-- The last list is made of the two others, each in its order. -/
inductive Interleaves : List α → List α → List α → Prop
  | nil : Interleaves [] [] []
  | kept {a : α} {sequence inserted out : List α} :
      Interleaves sequence inserted out → Interleaves (a :: sequence) inserted (a :: out)
  | added {a : α} {sequence inserted out : List α} :
      Interleaves sequence inserted out → Interleaves sequence (a :: inserted) (a :: out)

namespace Interleaves

theorem refl (sequence : List α) : Interleaves sequence [] sequence := by
  induction sequence with
  | nil => exact nil
  | cons a sequence ih => exact ih.kept

/-- An item at any position is one more inserted item. -/
theorem exists_placeAt {sequence inserted out : List α} (h : Interleaves sequence inserted out)
    (position : Nat) (item : α) :
    ∃ more, more.Perm (item :: inserted) ∧
      Interleaves sequence more (placeAt out position item) := by
  induction h generalizing position with
  | nil =>
      rw [placeAt_of_length_le (Nat.zero_le position)]
      exact ⟨[item], List.Perm.refl _, nil.added⟩
  | @kept a sequence inserted out h ih =>
      cases position with
      | zero => exact ⟨item :: inserted, List.Perm.refl _, h.kept.added⟩
      | succ position =>
          obtain ⟨more, hperm, hmore⟩ := ih position
          exact ⟨more, hperm, hmore.kept⟩
  | @added a sequence inserted out h ih =>
      cases position with
      | zero => exact ⟨item :: a :: inserted, List.Perm.refl _, h.added.added⟩
      | succ position =>
          obtain ⟨more, hperm, hmore⟩ := ih position
          have hswap : (a :: more).Perm (item :: a :: inserted) :=
            (hperm.cons a).trans (List.Perm.swap item a inserted)
          exact ⟨a :: more, hswap, hmore.added⟩

end Interleaves

/-- Placed items leave the sequence in its order, and each of them is there once. -/
theorem exists_interleaves_placeAll {sequence inserted out : List α}
    (h : Interleaves sequence inserted out) (count : Nat) (inserts : List (Nat × α)) :
    ∃ more, more.Perm (inserts.map Prod.snd ++ inserted) ∧
      Interleaves sequence more (placeAll count out inserts) := by
  induction inserts generalizing count inserted out with
  | nil => exact ⟨inserted, List.Perm.refl _, h⟩
  | cons insert rest ih =>
      obtain ⟨index, item⟩ := insert
      obtain ⟨first, hfirst, hplaced⟩ := h.exists_placeAt (index + count) item
      obtain ⟨more, hmore, hrest⟩ := ih hplaced (count + 1)
      have hperm : (rest.map Prod.snd ++ first).Perm (item :: (rest.map Prod.snd ++ inserted)) :=
        (hfirst.append_left _).trans List.perm_middle
      exact ⟨more, hmore.trans hperm, hrest⟩

/-! ## Weaves -/

/-- The elements of a sequence, numbered from `i`, each with the items of its number immediately
before it; the items of later numbers follow at the end. -/
def weave (inserts : List (Nat × α)) (i : Nat) : List α → List α
  | [] => (inserts.filter fun insert => i ≤ insert.1).map Prod.snd
  | a :: rest =>
    (inserts.filter fun insert => insert.1 = i).map Prod.snd ++ a :: weave inserts (i + 1) rest

theorem weave_nil (i : Nat) (sequence : List α) : weave [] i sequence = sequence := by
  induction sequence generalizing i with
  | nil => rfl
  | cons a rest ih => rw [weave, ih]; rfl

/-- An item of an earlier number has no place in the weave. -/
theorem weave_concat_of_lt {inserts : List (Nat × α)} {index i : Nat} {item : α} (h : index < i)
    (sequence : List α) :
    weave (inserts ++ [(index, item)]) i sequence = weave inserts i sequence := by
  induction sequence generalizing i with
  | nil =>
      have hpast : ¬i ≤ index := Nat.not_le.mpr h
      simp [weave, hpast]
  | cons a rest ih =>
      have hother : ¬index = i := Nat.ne_of_lt h
      simp [weave, hother, ih (Nat.lt_succ_of_lt h)]

theorem placeAt_append (front back : List α) (position : Nat) (item : α) :
    placeAt (front ++ back) (front.length + position) item =
      front ++ placeAt back position item := by
  rw [placeAt, placeAt, List.take_length_add_append, List.drop_length_add_append, List.append_assoc]

/-- The items from a number on are those of the number and those after it. -/
theorem length_filter_from (inserts : List (Nat × α)) (i : Nat) :
    (inserts.filter fun insert => i ≤ insert.1).length =
      (inserts.filter fun insert => insert.1 = i).length +
        (inserts.filter fun insert => i + 1 ≤ insert.1).length := by
  induction inserts with
  | nil => rfl
  | cons insert rest ih =>
      by_cases hat : insert.1 = i
      · have hfrom : i ≤ insert.1 := by omega
        have hafter : ¬i + 1 ≤ insert.1 := by omega
        rw [List.filter_cons_of_pos (by simpa using hfrom),
          List.filter_cons_of_pos (by simpa using hat),
          List.filter_cons_of_neg (by simpa using hafter), List.length_cons, List.length_cons, ih]
        omega
      · by_cases hafter : i + 1 ≤ insert.1
        · have hfrom : i ≤ insert.1 := by omega
          rw [List.filter_cons_of_pos (by simpa using hfrom),
            List.filter_cons_of_neg (by simpa using hat),
            List.filter_cons_of_pos (by simpa using hafter), List.length_cons, List.length_cons, ih]
          omega
        · have hfrom : ¬i ≤ insert.1 := by omega
          rw [List.filter_cons_of_neg (by simpa using hfrom),
            List.filter_cons_of_neg (by simpa using hat),
            List.filter_cons_of_neg (by simpa using hafter), ih]

/-- In a weave of items of numbers up to `index`, the place before element `index` is its distance
from the first element, moved on by the items of the numbers between. -/
theorem weave_concat {inserts : List (Nat × α)} {index i : Nat} (item : α)
    (hle : ∀ insert ∈ inserts, insert.1 ≤ index) (hi : i ≤ index) (sequence : List α) :
    weave (inserts ++ [(index, item)]) i sequence =
      placeAt (weave inserts i sequence)
        (index - i + (inserts.filter fun insert => i ≤ insert.1).length) item := by
  induction sequence generalizing i with
  | nil =>
      have hend : (weave inserts i []).length ≤
          index - i + (inserts.filter fun insert => i ≤ insert.1).length := by
        rw [weave, List.length_map]
        exact Nat.le_add_left _ _
      rw [placeAt_of_length_le hend]
      simp [weave, hi]
  | cons a rest ih =>
      rw [weave, weave, length_filter_from]
      rcases Nat.eq_or_lt_of_le hi with rfl | hlt
      · -- no item has a later number, so the place is the end of the front
        have hafter : (inserts.filter fun insert => i + 1 ≤ insert.1) = [] := by
          rw [List.filter_eq_nil_iff]
          intro insert hinsert
          have := hle insert hinsert
          simp only [decide_eq_true_eq]
          omega
        have hplace := placeAt_append ((inserts.filter fun insert => insert.1 = i).map Prod.snd)
          (a :: weave inserts (i + 1) rest) 0 item
        rw [weave_concat_of_lt (Nat.lt_succ_self i), hafter, Nat.sub_self, Nat.zero_add,
          List.length_nil]
        rw [List.length_map] at hplace
        rw [hplace]
        simp [placeAt]
      · have hother : ¬index = i := by omega
        have hplace := placeAt_append ((inserts.filter fun insert => insert.1 = i).map Prod.snd)
          (a :: weave inserts (i + 1) rest)
          (index - (i + 1) + (inserts.filter fun insert => i + 1 ≤ insert.1).length + 1) item
        have hposition : index - i + ((inserts.filter fun insert => insert.1 = i).length +
            (inserts.filter fun insert => i + 1 ≤ insert.1).length) =
            (inserts.filter fun insert => insert.1 = i).length + (index - (i + 1) +
              (inserts.filter fun insert => i + 1 ≤ insert.1).length + 1) := by
          omega
        rw [List.length_map] at hplace
        rw [hposition, hplace, ih hlt, List.filter_append]
        simp [hother, placeAt]

/-- Items of numbers that do not fall are woven into the sequence. -/
theorem placeAll_eq_weave {inserts : List (Nat × α)}
    (h : (inserts.map Prod.fst).Pairwise (· ≤ ·)) (sequence : List α) :
    placeAll 0 sequence inserts = weave inserts 0 sequence := by
  -- the last item goes behind all items of its own and of smaller numbers
  induction inserts using List.reverseRecOn with
  | nil => rw [placeAll, weave_nil]
  | append_singleton inserts insert ih =>
      obtain ⟨index, item⟩ := insert
      rw [List.map_append, List.pairwise_append] at h
      obtain ⟨hfirst, -, hlast⟩ := h
      have hle : ∀ insert ∈ inserts, insert.1 ≤ index := fun insert hinsert =>
        hlast insert.1 (List.mem_map_of_mem hinsert) index List.mem_cons_self
      have hall : (inserts.filter fun insert => 0 ≤ insert.1) = inserts :=
        List.filter_eq_self.mpr fun insert _ => by simp
      rw [placeAll_append, placeAll, placeAll, ih hfirst, weave_concat item hle (Nat.zero_le index),
        hall, Nat.sub_zero, Nat.zero_add]

/-- **A splice keeps the sequence and puts each item in once, before the element of its index.**

The result is made of the sequence in its order and of the items, each once.  Where the indices do
not fall it is the weave: every item stands immediately before the element that its index numbers
in the sequence as it was, at the end when there is none, and items of the same place stand in the
order of their indices. -/
theorem splice_weaves (sequence rest : List α) (first : α) {indices : List Nat}
    (h : PositionsFit 0 indices) :
    ∃ result, insertAtIndices sequence (first :: rest) indices = .ok result ∧
      (∃ inserted, inserted.Perm ((insertions first rest indices).map Prod.snd) ∧
        Interleaves sequence inserted result) ∧
      (indices.Pairwise (· ≤ ·) →
        result = weave (insertions first rest indices) 0 sequence) := by
  refine ⟨_, insertAtIndices_of_fits sequence rest first h, ?_, fun hsorted => ?_⟩
  · have hinterleaves := exists_interleaves_placeAll (Interleaves.refl sequence) 0
      (insertions first rest indices)
    rwa [List.append_nil] at hinterleaves
  · refine placeAll_eq_weave ?_ sequence
    rwa [fst_insertions]

/-- Two items before the second element, and the first item again past the end. -/
theorem splice_weaves_two_at_one :
    PositionsFit 0 [1, 1, 7] ∧ [1, 1, 7].Pairwise (· ≤ ·) ∧
      (∃ inserted, inserted.Perm ["x", "y", "x"] ∧
        Interleaves ["a", "b", "c"] inserted ["a", "x", "y", "b", "c", "x"]) ∧
      insertAtIndices ["a", "b", "c"] ["x", "y"] [1, 1, 7] =
        .ok (weave [(1, "x"), (1, "y"), (7, "x")] 0 ["a", "b", "c"]) ∧
      weave [(1, "x"), (1, "y"), (7, "x")] 0 ["a", "b", "c"] = ["a", "x", "y", "b", "c", "x"] := by
  have hfits : PositionsFit 0 [1, 1, 7] := by
    simp only [positionsFit_cons_iff, positionsFit_nil, wordLimit]
    decide
  have hsorted : [1, 1, 7].Pairwise (· ≤ ·) := by decide
  have hwoven : weave [(1, "x"), (1, "y"), (7, "x")] 0 ["a", "b", "c"] =
      ["a", "x", "y", "b", "c", "x"] := by decide
  obtain ⟨result, hresult, hinserted, hweave⟩ :=
    splice_weaves ["a", "b", "c"] ["y"] "x" hfits
  obtain rfl : result = ["a", "x", "y", "b", "c", "x"] := (hweave hsorted).trans hwoven
  exact ⟨hfits, hsorted, hinserted, hresult.trans (congrArg Except.ok hwoven.symm), hwoven⟩

end RobotCell
