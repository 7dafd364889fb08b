import RobotCell.Proofs.Controller.Equality
import RobotCell.Proofs.Motion.Check

/-!
# RobotCell.Proofs.Controller.Spelling

The numbers that a text spells out.

A number that is not finite is written `NaN` or `inf`, after a minus sign if it is negative.
`Spells text numbers` says that each of the numbers stands in the text, and that the text has no
small letter while all of them are finite.  It goes through brackets (`Spells.bracketed`), and it
settles where a text has one of these words in the place of a number: exactly where one of its
numbers is not finite (`Spells.showsNonFinite_iff`).
-/

namespace RobotCell

/-! ## Texts -/

/-- A text has the word for a number that is not finite in it. -/
def ShowsNonFinite (text : String) : Prop :=
  "NaN".toList <:+: text.toList ∨ "inf".toList <:+: text.toList

/-- Characters without small letters. -/
def NoSmallLetter (cs : List Char) : Prop := ∀ c ∈ cs, c.isLower = false

instance (cs : List Char) : Decidable (NoSmallLetter cs) :=
  decidable_of_iff (cs.all (!·.isLower) = true) (by simp [NoSmallLetter])

/-- Two texts without small letters are one. -/
theorem NoSmallLetter.append {cs ds : List Char} (hcs : NoSmallLetter cs) (hds : NoSmallLetter ds) :
    NoSmallLetter (cs ++ ds) :=
  List.forall_mem_append.mpr ⟨hcs, hds⟩

/-- The numbers of a text: each is written in it, and nothing else has small letters. -/
structure Spells (cs : List Char) (numbers : List Binary64) : Prop where
  written : ∀ x ∈ numbers, (numberText x).toList <:+: cs
  plain : (∀ x ∈ numbers, x.isFinite = true) → NoSmallLetter cs

namespace Spells

variable {cs ds : List Char} {xs ys : List Binary64}

/-- A text without small letters need not spell a number. -/
theorem of_noSmallLetter (h : NoSmallLetter cs) : Spells cs [] := ⟨by simp, fun _ => h⟩

/-- Two texts spell the numbers of both. -/
theorem append (hcs : Spells cs xs) (hds : Spells ds ys) : Spells (cs ++ ds) (xs ++ ys) := by
  constructor
  · intro x hx
    rcases List.mem_append.mp hx with hx | hx
    · exact (hcs.written x hx).trans (List.prefix_append cs ds).isInfix
    · exact (hds.written x hx).trans (List.suffix_append cs ds).isInfix
  · intro hfinite
    rw [List.forall_mem_append] at hfinite
    exact (hcs.plain hfinite.1).append (hds.plain hfinite.2)

/-- Numbers that are known to be finite need not be listed. -/
theorem drop_finite (h : Spells cs (xs ++ ys)) (hys : ∀ y ∈ ys, y.isFinite = true) :
    Spells cs xs where
  written x hx := h.written x (List.mem_append_left ys hx)
  plain hxs := h.plain (List.forall_mem_append.mpr ⟨hxs, hys⟩)

/-- Texts apart by commas. -/
theorem itemChars {texts : List String} {groups : List (List Binary64)}
    (h : List.Forall₂ (fun text xs => Spells text.toList xs) texts groups) :
    Spells (RobotCell.itemChars texts) groups.flatten := by
  induction h with
  | nil => exact of_noSmallLetter (by decide)
  | @cons text xs texts groups hhead htail ih =>
      cases htail with
      | nil => simpa [RobotCell.itemChars] using hhead
      | cons hnext hmore =>
          rw [itemChars_cons_cons, List.flatten_cons, List.append_cons]
          have hcomma := hhead.append (of_noSmallLetter (by decide : NoSmallLetter [',']))
          rw [List.append_nil] at hcomma
          exact hcomma.append ih

/-- A list in brackets spells the numbers of its items. -/
theorem bracketed {texts : List String} {groups : List (List Binary64)}
    (h : List.Forall₂ (fun text xs => Spells text.toList xs) texts groups) :
    Spells (RobotCell.bracketed texts).toList groups.flatten := by
  have hopen := (of_noSmallLetter (by decide : NoSmallLetter ['['])).append (itemChars h)
  have hclose := hopen.append (of_noSmallLetter (by decide : NoSmallLetter [']']))
  rw [List.append_nil] at hclose
  rw [toList_bracketed]
  exact hclose

end Spells

/-! ## Numbers -/

/-- No digit is a small letter. -/
theorem isLower_eq_false_of_isDigit {c : Char} (h : c.isDigit = true) : c.isLower = false := by
  have hdigit : 48 ≤ c.toNat ∧ c.toNat ≤ 57 := by
    simpa [Char.isDigit, UInt32.le_iff_toNat_le] using h
  delta Char.isLower
  simp only [ge_iff_le, UInt32.le_iff_toNat_le, Bool.and_eq_false_iff, decide_eq_false_iff_not]
  exact .inl fun hlower => by
    have : 97 ≤ c.toNat := hlower
    omega

/-- The text of a finite number is made of digits, a point and a minus sign. -/
theorem noSmallLetter_numberText {x : Binary64} (h : x.isFinite = true) :
    NoSmallLetter (numberText x).toList := by
  cases x with
  | infinite | nan => cases h
  | finite negative units hlt hgrid =>
      unfold numberText
      split
      · decide
      · rw [Binary64.toText, String.toList_ofList]
        refine NoSmallLetter.append ?_ fun c hc => ?_
        · cases negative <;> decide
        · rcases mem_magnitudeText hc with hdigit | rfl
          · exact isLower_eq_false_of_isDigit hdigit
          · decide

/-- The text of a number spells it. -/
theorem spells_numberText (x : Binary64) : Spells (numberText x).toList [x] where
  written y hy := by
    obtain rfl := List.mem_singleton.mp hy
    exact List.infix_rfl
  plain h := noSmallLetter_numberText (h x (List.mem_singleton.mpr rfl))

/-- A number that is not finite shows in its text. -/
theorem showsNonFinite_numberText {x : Binary64} (h : x.isFinite = false) :
    ShowsNonFinite (numberText x) := by
  cases x with
  | finite => cases h
  | nan => exact .inl List.infix_rfl
  | infinite negative =>
      cases negative with
      | false => exact .inr List.infix_rfl
      | true => exact .inr (List.suffix_append ['-'] _).isInfix

/-- **A text shows that a number is not finite** exactly when one of its numbers is not. -/
theorem Spells.showsNonFinite_iff {text : String} {xs : List Binary64}
    (h : Spells text.toList xs) : ShowsNonFinite text ↔ ∃ x ∈ xs, x.isFinite = false := by
  constructor
  · intro hshows
    by_contra hall
    have hplain : NoSmallLetter text.toList := h.plain fun x hx => by
      rw [← Bool.not_eq_false]
      exact fun hx' => hall ⟨x, hx, hx'⟩
    rcases hshows with hnan | hinf
    · exact absurd (hplain 'a' (hnan.subset (by decide))) (by decide)
    · exact absurd (hplain 'i' (hinf.subset (by decide))) (by decide)
  · rintro ⟨x, hx, hfinite⟩
    exact (showsNonFinite_numberText hfinite).imp (·.trans (h.written x hx))
      (·.trans (h.written x hx))

/-! ## Literals -/

/-- No number stands in a flag. -/
theorem spells_flagText (b : Bool) : Spells (flagText b).toList [] :=
  .of_noSmallLetter (by cases b <;> decide)

/-- The texts of numbers spell them one by one. -/
theorem spells_map_numberText (xs : List Binary64) :
    List.Forall₂ (fun text xs => Spells text.toList xs) (xs.map numberText) (xs.map ([·])) := by
  induction xs with
  | nil => exact .nil
  | cons x xs ih => exact .cons (spells_numberText x) ih

/-- Numbers in brackets spell all of them. -/
theorem spells_numbersText (xs : List Binary64) : Spells (numbersText xs).toList xs := by
  have h := Spells.bracketed (spells_map_numberText xs)
  rwa [← List.flatMap_def, List.flatMap_singleton'] at h

/-- The whole number of a quadrant is always finite. -/
theorem spells_quadrantText (q : Int32) : Spells (quadrantText q).toList [] := by
  refine .of_noSmallLetter ?_
  rw [quadrantText, toList_toString_int]
  refine NoSmallLetter.append ?_ fun c hc =>
    isLower_eq_false_of_isDigit (isDigit_of_mem_natDigits hc)
  split <;> decide

/-- So are those of a configuration. -/
theorem ArmConfiguration.spells_literal (c : ArmConfiguration) : Spells c.literal.toList [] :=
  Spells.bracketed (.cons (spells_quadrantText c.cf1) (.cons (spells_quadrantText c.cf4)
    (.cons (spells_quadrantText c.cf6) (.cons (spells_quadrantText c.cfx) .nil))))

namespace ExternalAxes

/-- An axis spells its number if it is used. -/
theorem spells_axisText (axis : Option Binary64) :
    Spells (axisText axis).toList axis.toList := by
  cases axis with
  | none => exact .of_noSmallLetter (by decide)
  | some x => exact spells_numberText x

/-- The numbers of axes are the positions of those in use. -/
theorem spells_literal (axes : ExternalAxes) :
    Spells axes.literal.toList (axes.toList.filterMap id) := by
  have hused : axes.toList.filterMap id = (axes.toList.map Option.toList).flatten := by
    induction axes.toList with
    | nil => rfl
    | cons axis rest ih =>
        rw [List.map_cons, List.flatten_cons, ← ih]
        cases axis <;> rfl
  rw [hused]
  refine Spells.bracketed ?_
  induction axes.toList with
  | nil => exact .nil
  | cons axis rest ih => exact .cons (spells_axisText axis) ih

/-- Axes that pass have finite positions. -/
theorem isFinite_of_validate {axes : ExternalAxes} (h : axes.validate = .ok ()) {x : Binary64}
    (hx : x ∈ axes.toList.filterMap id) : x.isFinite = true := by
  obtain ⟨axis, haxis, rfl⟩ := List.mem_filterMap.mp hx
  exact validate_eq_ok_iff.mp h x (Vector.mem_toList_iff.mp haxis)

end ExternalAxes

/-- A load spells its numbers. -/
theorem LoadData.spells_literal (l : LoadData) : Spells l.literal.toList l.numbers := by
  have h := Spells.bracketed (.cons (spells_numberText l.mass)
    (.cons (spells_numbersText l.cog.toList) (.cons (spells_numbersText l.aom.toList)
      (spells_map_numberText l.inertia.toList))))
  rw [List.flatten_cons, List.flatten_cons, List.flatten_cons, ← List.flatMap_def,
    List.flatMap_singleton', ← List.append_assoc l.cog.toList] at h
  exact h

/-! ## Targets -/

namespace Pose

/-- The numbers of a position and an orientation. -/
def frameNumbers (p : Pose) : List Binary64 := p.position.toList ++ p.orientation.toList

/-- A frame spells the numbers of its position and its orientation. -/
theorem spells_frameLiteral (p : Pose) : Spells p.frameLiteral.toList p.frameNumbers := by
  have h := Spells.bracketed (.cons (spells_numbersText p.position.toList)
    (.cons (spells_numbersText p.orientation.toList) .nil))
  rwa [List.flatten_cons, List.flatten_singleton] at h

theorem spells_literal (p : Pose) : Spells p.literal.toList p.numbers := by
  have h := Spells.bracketed (.cons (spells_numbersText p.position.toList)
    (.cons (spells_numbersText p.orientation.toList) (.cons p.config.spells_literal
      (.cons (ExternalAxes.spells_literal p.external) .nil))))
  rw [literal, numbers, List.append_assoc]
  simpa only [List.flatten_cons, List.flatten_nil, List.append_nil, List.nil_append] using h

/-- A pose that passes has finite numbers. -/
theorem isFinite_of_validate {p : Pose} (h : p.validate = .ok ()) {x : Binary64}
    (hx : x ∈ p.numbers) : x.isFinite = true := by
  obtain ⟨hposition, horientation, -, hexternal⟩ := validate_eq_ok_iff.mp h
  rw [numbers, List.mem_append, List.mem_append, Vector.mem_toList_iff,
    Vector.mem_toList_iff] at hx
  rcases hx with (hx | hx) | hx
  · exact hposition x hx
  · exact horientation x hx
  · exact ExternalAxes.isFinite_of_validate hexternal hx

end Pose

namespace JointPose

theorem spells_literal (p : JointPose) : Spells p.literal.toList p.numbers := by
  have h := Spells.bracketed (.cons (spells_numbersText p.joints.toList)
    (.cons (ExternalAxes.spells_literal p.external) .nil))
  rwa [List.flatten_cons, List.flatten_singleton] at h

/-- A joint pose that passes has finite numbers. -/
theorem isFinite_of_validate {p : JointPose} (h : p.validate = .ok ()) {x : Binary64}
    (hx : x ∈ p.numbers) : x.isFinite = true := by
  obtain ⟨hjoints, hexternal⟩ := validate_eq_ok_iff.mp h
  rw [numbers, List.mem_append, Vector.mem_toList_iff] at hx
  rcases hx with hx | hx
  · exact hjoints x hx
  · exact ExternalAxes.isFinite_of_validate hexternal hx

end JointPose

namespace Target

def numbers : Target → List Binary64
  | .cartesian p => p.numbers
  | .joint p => p.numbers

theorem spells_literal (t : Target) : Spells t.literal.toList t.numbers := by
  cases t with
  | cartesian p => exact p.spells_literal
  | joint p => exact p.spells_literal

/-- A target that passes its check has finite numbers. -/
theorem isFinite_of_validate {t : Target} (h : t.validate = .ok ()) {x : Binary64}
    (hx : x ∈ t.numbers) : x.isFinite = true := by
  cases t with
  | cartesian p => exact Pose.isFinite_of_validate h hx
  | joint p => exact JointPose.isFinite_of_validate h hx

end Target

end RobotCell
