import RobotCell.Proofs.Controller.Equality

/-!
# RobotCell.Proofs.Motion.RoundTrip

Targets that are written and read again.

`Pose.parse_literal` and `JointPose.parse_literal` say what is read: the target `asWritten`.  Here
is what that is, part by part (`Pose.RoundTrip`, `JointPose.RoundTrip`).  A literal shows no sign of
a zero, and equality of numbers does not ask for it; an external axis in use at or above the mark of
an unused one falls out of use, and that is the only thing that makes the target another one
(`ExternalAxes.asWritten_equals_iff`).
-/

namespace RobotCell

/-! ## Equality -/

/-- Equality of axes: the same ones are in use, at equal positions. -/
def ExternalAxes.Equals (a b : ExternalAxes) : Prop :=
  List.Forall₂ (Option.Rel Binary64.Equals) a.toList b.toList

/-- Equality of poses: equal numbers in equal places, and the same configuration. -/
structure Pose.Equals (p q : Pose) : Prop where
  position : List.Forall₂ Binary64.Equals p.position.toList q.position.toList
  orientation : List.Forall₂ Binary64.Equals p.orientation.toList q.orientation.toList
  config : p.config = q.config
  external : p.external.Equals q.external

structure JointPose.Equals (p q : JointPose) : Prop where
  joints : List.Forall₂ Binary64.Equals p.joints.toList q.joints.toList
  external : p.external.Equals q.external

/-- Finite numbers equal themselves without the signs of zeros. -/
theorem unsigned_forall₂_equals {n : Nat} {v : Vector Binary64 n}
    (hfinite : ∀ x ∈ v, x.isFinite = true) :
    List.Forall₂ Binary64.Equals (unsigned v).toList v.toList := by
  rw [Vector.toList_map, List.forall₂_map_left_iff, List.forall₂_same]
  exact fun x hx => Binary64.dropZeroSign_equals (hfinite x (Vector.mem_toList_iff.mp hx))

/-! ## External axes -/

namespace ExternalAxes

/-- A number at or above the mark is no zero, and not in use. -/
theorem axis?_dropZeroSign_of_le {x : Binary64} (h : unusedAxis ≤ x) :
    axis? x.dropZeroSign = none := by
  have hzeros : ∀ negative, ¬unusedAxis ≤ Binary64.zero negative := by decide +kernel
  refine if_pos ?_
  unfold Binary64.dropZeroSign
  split
  · rename_i hzero
    cases x with
    | finite negative units hlt hgrid =>
        obtain rfl : units = 0 := by simpa [Binary64.isZero] using hzero
        exact absurd h (hzeros negative)
    | infinite | nan => cases hzero
  · exact h

/-- The axes in use below the mark, without the signs of zeros. -/
def belowMark (axes : ExternalAxes) : ExternalAxes :=
  axes.map fun axis => axis.bind fun x => if unusedAxis ≤ x then none else some x.dropZeroSign

theorem asWritten_eq_belowMark (axes : ExternalAxes) : axes.asWritten = axes.belowMark := by
  refine Vector.map_congr_left fun axis _ => congrArg (Option.bind axis) (funext fun x => ?_)
  split
  · exact axis?_dropZeroSign_of_le ‹_›
  · exact axis?_dropZeroSign ‹_›

/-- An axis equals what is read for it when it is not in use, or in use below the mark. -/
theorem rel_axis?_iff {axis : Option Binary64} (hfinite : ∀ x ∈ axis, x.isFinite = true) :
    Option.Rel Binary64.Equals (axis.bind fun x => axis? x.dropZeroSign) axis ↔
      ∀ x ∈ axis, ¬unusedAxis ≤ x := by
  cases axis with
  | none => simp
  | some x =>
      by_cases hmark : unusedAxis ≤ x
      · rw [Option.bind_some, axis?_dropZeroSign_of_le hmark]
        exact ⟨nofun, fun h => absurd hmark (h x rfl)⟩
      · rw [Option.bind_some, axis?_dropZeroSign hmark]
        exact ⟨fun _ y hy => Option.some.inj hy ▸ hmark,
          fun _ => .some (Binary64.dropZeroSign_equals (hfinite x rfl))⟩

/-- Axes with finite positions equal what is read for them when none in use is at or above the
mark. -/
theorem asWritten_equals_iff {axes : ExternalAxes}
    (hfinite : ∀ x, some x ∈ axes → x.isFinite = true) : axes.asWritten.Equals axes ↔ axes.Shown := by
  have hrel : ∀ axis ∈ axes, (Option.Rel Binary64.Equals
      (axis.bind fun x => axis? x.dropZeroSign) axis ↔ ∀ x ∈ axis, ¬unusedAxis ≤ x) := by
    rintro axis haxis
    exact rel_axis?_iff fun x hx => hfinite x (hx ▸ haxis)
  rw [Equals, asWritten, Vector.toList_map, List.forall₂_map_left_iff, List.forall₂_same]
  simp only [Vector.mem_toList_iff]
  constructor
  · intro h x hx
    exact (hrel _ hx).mp (h _ hx) x rfl
  · intro h axis haxis
    exact (hrel axis haxis).mpr fun x hx => h x (hx ▸ haxis)

end ExternalAxes

/-! ## Targets -/

/-- What is read from the literal of a pose: the pose, with no sign at its zeros and no axis in use
at or above the mark. -/
structure Pose.RoundTrip (p q : Pose) : Prop where
  parse_literal : Pose.parse p.literal = .ok q
  position : q.position = unsigned p.position
  orientation : q.orientation = unsigned p.orientation
  config : q.config = p.config
  external : q.external = p.external.belowMark
  equals_iff : q.Equals p ↔ p.external.Shown
  validate : p.validate = .ok () → q.validate = .ok ()

structure JointPose.RoundTrip (p q : JointPose) : Prop where
  parse_literal : JointPose.parse p.literal = .ok q
  joints : q.joints = unsigned p.joints
  external : q.external = p.external.belowMark
  equals_iff : q.Equals p ↔ p.external.Shown
  validate : p.validate = .ok () → q.validate = .ok ()

theorem Pose.mem_numbers_iff {p : Pose} {x : Binary64} :
    x ∈ p.numbers ↔ x ∈ p.position ∨ x ∈ p.orientation ∨ some x ∈ p.external := by
  simp [Pose.numbers]

theorem JointPose.mem_numbers_iff {p : JointPose} {x : Binary64} :
    x ∈ p.numbers ↔ x ∈ p.joints ∨ some x ∈ p.external := by
  simp [JointPose.numbers]

theorem Pose.asWritten_equals_iff {p : Pose} (hfinite : ∀ x ∈ p.numbers, x.isFinite = true) :
    p.asWritten.Equals p ↔ p.external.Shown := by
  have hexternal : ∀ x, some x ∈ p.external → x.isFinite = true := fun x hx =>
    hfinite x (mem_numbers_iff.mpr (.inr (.inr hx)))
  have haxes := ExternalAxes.asWritten_equals_iff hexternal
  constructor
  · exact fun h => haxes.mp h.external
  · exact fun h => ⟨unsigned_forall₂_equals fun x hx => hfinite x (mem_numbers_iff.mpr (.inl hx)),
      unsigned_forall₂_equals fun x hx => hfinite x (mem_numbers_iff.mpr (.inr (.inl hx))),
      rfl, haxes.mpr h⟩

theorem JointPose.asWritten_equals_iff {p : JointPose}
    (hfinite : ∀ x ∈ p.numbers, x.isFinite = true) :
    p.asWritten.Equals p ↔ p.external.Shown := by
  have hexternal : ∀ x, some x ∈ p.external → x.isFinite = true := fun x hx =>
    hfinite x (mem_numbers_iff.mpr (.inr hx))
  have haxes := ExternalAxes.asWritten_equals_iff hexternal
  constructor
  · exact fun h => haxes.mp h.external
  · exact fun h => ⟨unsigned_forall₂_equals fun x hx => hfinite x (mem_numbers_iff.mpr (.inl hx)),
      haxes.mpr h⟩

/-- **Targets survive a round trip**: the literal of a pose or joint pose of finite numbers is read
as a target that differs in the signs of zeros, and in that the axes in use at or above the mark are
out of use.  It equals the target when there is no such axis, and passes its check when the target
does. -/
theorem target_literals_round_trip :
    (∀ p : Pose, (∀ x ∈ p.numbers, x.isFinite = true) → ∃ q, p.RoundTrip q) ∧
      ∀ p : JointPose, (∀ x ∈ p.numbers, x.isFinite = true) → ∃ q, p.RoundTrip q := by
  constructor
  · intro p hfinite
    exact ⟨p.asWritten, p.parse_literal, rfl, rfl, rfl, p.external.asWritten_eq_belowMark,
      Pose.asWritten_equals_iff hfinite, Pose.validate_asWritten⟩
  · intro p hfinite
    exact ⟨p.asWritten, p.parse_literal, rfl, p.external.asWritten_eq_belowMark,
      JointPose.asWritten_equals_iff hfinite, JointPose.validate_asWritten⟩

/-- A pose with an axis at the mark is read as another pose that passes its check; without such an
axis and with a zero that loses its sign, what is read is equal. -/
theorem target_literals_round_trip_marked_axis :
    let p : Pose := ⟨#v[.zero true, -1.5, 1e300], #v[1, 0, 0, 0], ⟨-2147483648, 0, 2147483647, 1⟩,
      #v[some 9e9, some (-9e9), none, none, none, none]⟩
    let j : JointPose := ⟨#v[.zero true, 90, 0, 0, 0, 0],
      #v[some (.zero true), none, none, none, none, none]⟩
    (∃ q, Pose.parse p.literal = .ok q ∧ ¬q.Equals p ∧ q.validate = .ok ()) ∧
      ∃ q, JointPose.parse j.literal = .ok q ∧ q ≠ j ∧ q.Equals j := by
  intro p j
  obtain ⟨q, hq⟩ := target_literals_round_trip.1 p (by decide +kernel)
  obtain ⟨r, hr⟩ := target_literals_round_trip.2 j (by decide +kernel)
  have hmark : ¬p.external.Shown := fun h => h 9e9 (by decide +kernel) (by decide +kernel)
  have hshown : j.external.Shown := by
    intro x hx
    obtain rfl : x = .zero true := by simpa [j] using hx
    decide +kernel
  have hsign : r.joints ≠ j.joints := by
    rw [hr.joints]
    decide +kernel
  exact ⟨⟨q, hq.parse_literal, fun h => hmark (hq.equals_iff.mp h),
      hq.validate (by decide +kernel)⟩,
    r, hr.parse_literal, fun h => hsign (congrArg JointPose.joints h), hr.equals_iff.mpr hshown⟩

end RobotCell
