import RobotCell.Proofs.Motion.ReadBack

/-!
# RobotCell.Proofs.Motion.Check

The checks of poses.

`Pose.validate_eq_ok_iff` and `JointPose.validate_eq_ok_iff` say what the checks ask for.  A target
that passes is read back from its literal as a target that passes (`Pose.validate_asWritten`,
`JointPose.validate_asWritten`): the signs of zeros do not matter to finiteness and to norms, and an
external axis can only fall out of use.
-/

namespace RobotCell

/-! ## Numbers -/

/-- The sign of a zero does not make it finite or not. -/
theorem Binary64.isFinite_dropZeroSign (x : Binary64) : x.dropZeroSign.isFinite = x.isFinite := by
  unfold Binary64.dropZeroSign
  split
  · rename_i hzero
    cases x with
    | finite => rfl
    | infinite | nan => cases hzero
  · rfl

/-- The sign of a zero does not matter to its square. -/
theorem Binary64.dropZeroSign_mul_self (x : Binary64) :
    x.dropZeroSign * x.dropZeroSign = x * x := by
  unfold Binary64.dropZeroSign
  split
  · rename_i hzero
    cases x with
    | finite negative units hlt hgrid =>
        obtain rfl : units = 0 := by simpa [Binary64.isZero] using hzero
        cases negative with
        | false => rfl
        | true => rfl
    | infinite | nan => cases hzero
  · rfl

/-- No number that is not finite is found just when all of them are. -/
theorem find?_isFinite_eq_none {xs : List Binary64} :
    xs.find? (fun x => !x.isFinite) = none ↔ ∀ x ∈ xs, x.isFinite = true := by
  simp [List.find?_eq_none]

/-! ## External axes -/

namespace ExternalAxes

/-- Every axis in use has a finite position. -/
theorem validate_eq_ok_iff {axes : ExternalAxes} :
    axes.validate = .ok () ↔ ∀ x, some x ∈ axes → x.isFinite = true := by
  have hfaults : (axes.toList.filterMap id).find? (fun x => !x.isFinite) = none ↔
      ∀ x, some x ∈ axes → x.isFinite = true := by
    rw [find?_isFinite_eq_none]
    simp only [List.mem_filterMap, id, exists_eq_right, Vector.mem_toList_iff]
  rw [← hfaults, ExternalAxes.validate]
  cases (axes.toList.filterMap id).find? fun x => !x.isFinite <;> simp

/-- Axes that pass are read back as axes that pass. -/
theorem validate_asWritten {axes : ExternalAxes} (h : axes.validate = .ok ()) :
    axes.asWritten.validate = .ok () := by
  rw [validate_eq_ok_iff] at h ⊢
  intro y hy
  obtain ⟨axis, haxis, hread⟩ := Vector.mem_map.mp hy
  obtain ⟨x, rfl, hused⟩ := Option.bind_eq_some_iff.mp hread
  unfold axis? at hused
  split at hused
  · cases hused
  · cases hused
    rw [Binary64.isFinite_dropZeroSign]
    exact h x haxis

end ExternalAxes

/-! ## Targets -/

/-- All numbers are finite, and the norm of the orientation is one within the tolerance. -/
theorem Pose.validate_eq_ok_iff {p : Pose} :
    p.validate = .ok () ↔ (∀ x ∈ p.position, x.isFinite = true) ∧
      (∀ x ∈ p.orientation, x.isFinite = true) ∧
      ¬normTolerance < (p.orientationNorm - 1).abs ∧ p.external.validate = .ok () := by
  have hfaults : (p.position.toList ++ p.orientation.toList).find? (fun x => !x.isFinite) = none ↔
      (∀ x ∈ p.position, x.isFinite = true) ∧ ∀ x ∈ p.orientation, x.isFinite = true := by
    rw [find?_isFinite_eq_none, List.forall_mem_append]
    simp only [Vector.mem_toList_iff]
  rw [← and_assoc, ← hfaults, Pose.validate]
  cases (p.position.toList ++ p.orientation.toList).find? fun x => !x.isFinite with
  | some x => simp
  | none =>
      by_cases hnorm : normTolerance < (p.orientationNorm - 1).abs <;> simp [hnorm]

/-- Writing a pose keeps the length of its orientation. -/
theorem Pose.orientationNorm_asWritten (p : Pose) :
    p.asWritten.orientationNorm = p.orientationNorm := by
  have hsquares : (unsigned p.orientation).toList.map (fun q => q * q) =
      p.orientation.toList.map fun q => q * q := by
    rw [Vector.toList_map, List.map_map]
    exact List.map_congr_left fun q _ => q.dropZeroSign_mul_self
  unfold Pose.orientationNorm
  exact congrArg (fun squares => (squares.foldl (· + ·) (Binary64.zero false)).sqrt) hsquares

/-- Numbers are finite just when they are without the signs of zeros. -/
theorem forall_isFinite_unsigned {n : Nat} {v : Vector Binary64 n} :
    (∀ x ∈ unsigned v, x.isFinite = true) ↔ ∀ x ∈ v, x.isFinite = true := by
  simp [unsigned, Binary64.isFinite_dropZeroSign]

/-- A pose that passes is read back as a pose that passes. -/
theorem Pose.validate_asWritten {p : Pose} (h : p.validate = .ok ()) :
    p.asWritten.validate = .ok () := by
  rw [validate_eq_ok_iff] at h ⊢
  obtain ⟨hposition, horientation, hnorm, hexternal⟩ := h
  exact ⟨forall_isFinite_unsigned.mpr hposition, forall_isFinite_unsigned.mpr horientation,
    by rwa [orientationNorm_asWritten], ExternalAxes.validate_asWritten hexternal⟩

/-- A joint pose passes its check just when its joints are finite and its axes pass theirs. -/
theorem JointPose.validate_eq_ok_iff {p : JointPose} :
    p.validate = .ok () ↔ (∀ x ∈ p.joints, x.isFinite = true) ∧ p.external.validate = .ok () := by
  have hfaults : p.joints.toList.find? (fun x => !x.isFinite) = none ↔
      ∀ x ∈ p.joints, x.isFinite = true := by
    rw [find?_isFinite_eq_none]
    simp only [Vector.mem_toList_iff]
  rw [← hfaults, JointPose.validate]
  cases p.joints.toList.find? fun x => !x.isFinite <;> simp

/-- A joint pose that passes its check does so as it is written. -/
theorem JointPose.validate_asWritten {p : JointPose} (h : p.validate = .ok ()) :
    p.asWritten.validate = .ok () := by
  rw [validate_eq_ok_iff] at h ⊢
  exact ⟨forall_isFinite_unsigned.mpr h.1, ExternalAxes.validate_asWritten h.2⟩

/-! ## Defects -/

/-- The check of axes passes or names a defect. -/
theorem ExternalAxes.validate_cases (axes : ExternalAxes) :
    axes.validate = .ok () ∨ ∃ defect, axes.validate = .error (.invalidPose defect) := by
  unfold ExternalAxes.validate
  split
  · exact .inr ⟨_, rfl⟩
  · exact .inl rfl

/-- The check of a pose passes or names a defect. -/
theorem Pose.validate_cases (p : Pose) :
    p.validate = .ok () ∨ ∃ defect, p.validate = .error (.invalidPose defect) := by
  unfold Pose.validate
  split
  · exact .inr ⟨_, rfl⟩
  · dsimp only
    split
    · exact .inr ⟨_, rfl⟩
    · exact p.external.validate_cases

/-- The check of a joint pose passes or names a defect. -/
theorem JointPose.validate_cases (p : JointPose) :
    p.validate = .ok () ∨ ∃ defect, p.validate = .error (.invalidPose defect) := by
  unfold JointPose.validate
  split
  · exact .inr ⟨_, rfl⟩
  · exact p.external.validate_cases

/-- A target that does not pass is an invalid pose. -/
theorem Target.validate_cases (target : Target) :
    target.validate = .ok () ∨ ∃ defect, target.validate = .error (.invalidPose defect) := by
  cases target with
  | cartesian p => exact p.validate_cases
  | joint p => exact p.validate_cases

end RobotCell
