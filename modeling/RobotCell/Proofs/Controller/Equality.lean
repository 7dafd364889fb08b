import RobotCell.Proofs.Controller.Rendering

/-!
# RobotCell.Proofs.Controller.Equality

Values that are equal to what is read from their literals.

Two values are equal when they have the same form and equal numbers, where the two zeros are equal
and NaN equals nothing.  A value of finite numbers that its literal shows is read from that literal
as an equal value exactly when no text of it has a quote (`exists_equals_iff`): quotes are written
as they stand, and end the text when it is read.
-/

namespace RobotCell

/-! ## Equality -/

/-- Equality of numbers: the two zeros are equal, and NaN equals nothing. -/
def Binary64.Equals (x y : Binary64) : Prop := x ≤ y ∧ y ≤ x

/-- A finite number is equal to itself. -/
theorem Binary64.equals_refl {x : Binary64} (h : x.isFinite = true) : x.Equals x := by
  cases x with
  | finite negative units hlt hgrid =>
      have hle : Binary64.finite negative units hlt hgrid ≤ .finite negative units hlt hgrid :=
        decide_eq_true (Int.le_refl _)
      exact ⟨hle, hle⟩
  | infinite | nan => cases h

/-- Without the sign of a zero it is equal to itself still. -/
theorem Binary64.dropZeroSign_equals {x : Binary64} (h : x.isFinite = true) :
    x.dropZeroSign.Equals x := by
  unfold dropZeroSign
  split
  · rename_i hzero
    cases x with
    | finite negative units hlt hgrid =>
        obtain rfl : units = 0 := by simpa [isZero] using hzero
        cases negative with
        | false => exact equals_refl h
        | true => exact ⟨rfl, rfl⟩
    | infinite | nan => cases h
  · exact equals_refl h

/-- The numbers of a pose, those of the axes in use last. -/
def Pose.numbers (p : Pose) : List Binary64 :=
  p.position.toList ++ p.orientation.toList ++ p.external.toList.filterMap id

def JointPose.numbers (p : JointPose) : List Binary64 :=
  p.joints.toList ++ p.external.toList.filterMap id

def LoadData.numbers (l : LoadData) : List Binary64 :=
  l.mass :: (l.cog.toList ++ l.aom.toList ++ l.inertia.toList)

/-- A change of the axes that are used leaves those unused that were. -/
theorem filterMap_id_map_map (f : Binary64 → Binary64) (axes : List (Option Binary64)) :
    (axes.map (Option.map f)).filterMap id = (axes.filterMap id).map f := by
  rw [List.filterMap_map, List.map_filterMap]
  rfl

/-- A change of all the numbers of a pose changes them one by one. -/
theorem Pose.numbers_mapNumbers (f : Binary64 → Binary64) (p : Pose) :
    (p.mapNumbers f).numbers = p.numbers.map f := by
  simp only [Pose.numbers, Pose.mapNumbers, Vector.toList_map, filterMap_id_map_map,
    List.map_append]

/-- A change of all the numbers of a joint pose changes them one by one. -/
theorem JointPose.numbers_mapNumbers (f : Binary64 → Binary64) (p : JointPose) :
    (p.mapNumbers f).numbers = p.numbers.map f := by
  simp only [JointPose.numbers, JointPose.mapNumbers, Vector.toList_map, filterMap_id_map_map,
    List.map_append]

/-- A change of all the numbers of a load changes them one by one. -/
theorem LoadData.numbers_mapNumbers (f : Binary64 → Binary64) (l : LoadData) :
    (l.mapNumbers f).numbers = l.numbers.map f := by
  simp [LoadData.numbers, LoadData.mapNumbers, Vector.toList_map]

namespace DataValue

/-- The numbers of a value, in their order. -/
def numbers : DataValue → List Binary64
  | .robtarget p => p.numbers
  | .jointtarget p => p.numbers
  | .tooldata t => t.tframe.numbers ++ t.load.numbers
  | .wobjdata w => w.uframe.numbers ++ w.oframe.numbers
  | .num x => [x]
  | .bool _ | .string _ => []

/-- Equality of values: the same form, and equal numbers in it. -/
def Equals (v w : DataValue) : Prop :=
  v.mapNumbers (fun _ => 0) = w.mapNumbers (fun _ => 0) ∧
    List.Forall₂ Binary64.Equals v.numbers w.numbers

/-- A change of all the numbers of a value changes them one by one. -/
theorem numbers_mapNumbers (f : Binary64 → Binary64) (v : DataValue) :
    (v.mapNumbers f).numbers = v.numbers.map f := by
  cases v with
  | robtarget p => exact p.numbers_mapNumbers f
  | jointtarget p => exact p.numbers_mapNumbers f
  | tooldata t =>
      simp [numbers, mapNumbers, Pose.numbers_mapNumbers, LoadData.numbers_mapNumbers]
  | wobjdata w => simp [numbers, mapNumbers, Pose.numbers_mapNumbers]
  | num | bool | string => rfl

/-- The form of a value has nothing to do with what its numbers are replaced by. -/
theorem mapNumbers_mapNumbers (f g : Binary64 → Binary64) (v : DataValue) :
    (v.mapNumbers f).mapNumbers g = v.mapNumbers (g ∘ f) := by
  cases v <;> simp [mapNumbers, Pose.mapNumbers, JointPose.mapNumbers, LoadData.mapNumbers]

/-- A value of finite numbers is equal to itself without the signs of zeros. -/
theorem unsigned_equals {v : DataValue} (hfinite : ∀ x ∈ v.numbers, x.isFinite = true) :
    v.unsigned.Equals v := by
  refine ⟨mapNumbers_mapNumbers _ _ v, ?_⟩
  rw [unsigned, numbers_mapNumbers, List.forall₂_map_left_iff, List.forall₂_same]
  exact fun x hx => Binary64.dropZeroSign_equals (hfinite x hx)

/-- Equal values have the same texts. -/
theorem Equals.quoteFree_iff {v w : DataValue} (h : v.Equals w) : v.QuoteFree ↔ w.QuoteFree := by
  rw [← quoteFree_mapNumbers (f := fun _ => 0), h.1, quoteFree_mapNumbers]

/-- A reader that gets the values of literals gets an equal one when there are no quotes. -/
theorem exists_equals_iff {v : DataValue} {result : Except Failure DataValue}
    (hfinite : ∀ x ∈ v.numbers, x.isFinite = true)
    (hread : v.QuoteFree → result = .ok v.unsigned)
    (hsound : ∀ w, result = .ok w → parse v.literal = .ok w) :
    (∃ w, result = .ok w ∧ w.Equals v) ↔ v.QuoteFree := by
  constructor
  · rintro ⟨w, hw, hequals⟩
    exact hequals.quoteFree_iff.mp (shown_of_parse (hsound w hw)).2
  · exact fun hquote => ⟨v.unsigned, hread hquote, unsigned_equals hfinite⟩

end DataValue

end RobotCell
