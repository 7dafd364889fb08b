import RobotCell.Data.Overlay

/-!
# RobotCell.Proofs.Data.Overlay

What stands where, once data is laid over other data.

The fields of a table are looked up by their names, and what an overlay holds under a name depends
on the two tables at this name only (`get?_over`), if no name stands twice in the upper one.  A
table over something that is no table takes its place; seen as `Datum.opened`, which has no fields
then, it is joined with it all the same (`Datum.onto_table`).
-/

namespace RobotCell

/-! ## Names -/

namespace Fields

/-- Fields of which no two have the same name. -/
def Distinct (fields : Fields) : Prop := (fields.map Prod.fst).Nodup

/-- No field has no name twice. -/
theorem distinct_nil : Distinct [] := List.nodup_nil

/-- A single field has no name twice. -/
theorem distinct_singleton (name : String) (d : Datum) : Distinct [(name, d)] :=
  List.pairwise_singleton _ _

/-- A table that is set has the name that was set and those it had before. -/
theorem mem_names_set {fields : Fields} {name other : String} {d : Datum} :
    other ∈ (fields.set name d).map Prod.fst ↔ other = name ∨ other ∈ fields.map Prod.fst := by
  induction fields with
  | nil => simp [set]
  | cons f rest ih =>
      unfold set
      split
      · rename_i h
        simp [h]
      · simp only [List.map_cons, List.mem_cons, ih]
        exact or_left_comm

/-- Setting a field never makes a second one of its name. -/
theorem Distinct.set {fields : Fields} (h : fields.Distinct) (name : String) (d : Datum) :
    (fields.set name d).Distinct := by
  induction fields with
  | nil => exact distinct_singleton name d
  | cons f rest ih =>
      obtain ⟨hnew, hrest⟩ := List.nodup_cons.mp h
      unfold Fields.set
      split
      · exact h
      · rename_i hne
        refine List.nodup_cons.mpr ⟨fun hmem => ?_, ih hrest⟩
        rcases mem_names_set.mp hmem with heq | hmem
        · exact hne heq
        · exact hnew hmem

/-- A name that does not occur has no value. -/
theorem get?_eq_none_of_notMem {fields : Fields} {name : String}
    (h : name ∉ fields.map Prod.fst) : fields.get? name = none := by
  refine List.lookup_eq_none_iff.mpr fun f hf => ?_
  have hne : name ≠ f.1 := fun heq => h (heq ▸ List.mem_map_of_mem hf)
  simpa using hne

/-- A single field is found by its name. -/
theorem get?_singleton_self (name : String) (d : Datum) : get? [(name, d)] name = some d := by
  simp [get?]

/-- A single field is found by no other name. -/
theorem get?_singleton_of_ne {name other : String} (h : other ≠ name) (d : Datum) :
    get? [(name, d)] other = none :=
  get?_eq_none_of_notMem (by simpa using h)

end Fields

/-! ## Overlays -/

/-- A value over another one, if there is one. -/
def Datum.onto (lower : Option Datum) (d : Datum) : Datum :=
  match lower with
  | some lower => lower.over d
  | none => d

/-- Only a table is joined with what is below it. -/
theorem Datum.onto_of_ne_table {d : Datum} (h : ∀ fields, d ≠ .table fields)
    (lower : Option Datum) : Datum.onto lower d = d := by
  cases lower with
  | none => rfl
  | some lower =>
      cases d with
      | table fields => exact absurd rfl (h fields)
      | null | bool | integer | float | string | date | list => rfl

namespace Fields

/-- What stands under a name after two values were laid over each other. -/
def joined (lower upper : Option Datum) : Option Datum :=
  match upper with
  | some d => some (Datum.onto lower d)
  | none => lower

/-- A table is laid over another field by field. -/
theorem over_cons (below : Fields) (name : String) (d : Datum) (rest : Fields) :
    below.over ((name, d) :: rest) =
      (below.set name (Datum.onto (below.get? name) d)).over rest := by
  rw [Fields.over]
  cases below.get? name <;> rfl

/-- Each name of two tables has what the two say joined, the upper one over the lower. -/
theorem get?_over (below : Fields) {upper : Fields} (h : upper.Distinct) (name : String) :
    (below.over upper).get? name = joined (below.get? name) (upper.get? name) := by
  induction upper generalizing below with
  | nil => rfl
  | cons f rest ih =>
      obtain ⟨n, d⟩ := f
      obtain ⟨hnew, hrest⟩ := List.nodup_cons.mp h
      rw [over_cons, ih _ hrest]
      by_cases hname : name = n
      · subst hname
        rw [get?_eq_none_of_notMem hnew, get?_set_self]
        simp [get?, joined]
      · have hne : (name == n) = false := by simpa using hname
        rw [get?_set_of_ne _ _ hname]
        simp [get?, List.lookup_cons, hne]

/-- A table laid over one with distinct names leaves them distinct. -/
theorem Distinct.over {below : Fields} (h : below.Distinct) (upper : Fields) :
    (below.over upper).Distinct := by
  induction upper generalizing below with
  | nil => exact h
  | cons f rest ih =>
      obtain ⟨n, d⟩ := f
      rw [over_cons]
      exact ih (h.set n _)

end Fields

/-! ## Sections -/

/-- The fields of what stands at a place; what is no table has none. -/
def Datum.opened (d : Option Datum) : Fields := (d.bind Datum.openFields?).getD []

/-- A table over something is a table, whose fields are those of both. -/
theorem Datum.onto_table (lower : Option Datum) {fields : Fields} (h : fields.Distinct) :
    ∃ joint, Datum.onto lower (.table fields) = .table joint ∧
      ∀ name, Fields.get? joint name =
        Fields.joined ((Datum.opened lower).get? name) (fields.get? name) := by
  have halone : ∀ name, fields.get? name =
      Fields.joined (Fields.get? [] name) (fields.get? name) := fun name => by
    cases fields.get? name <;> rfl
  cases lower with
  | none => exact ⟨fields, rfl, halone⟩
  | some lower =>
      cases hopen : lower.openFields? with
      | none => exact ⟨fields, by simp [onto, Datum.over, hopen], by simpa [opened, hopen] using halone⟩
      | some below =>
          refine ⟨below.over fields, by simp [onto, Datum.over, hopen], fun name => ?_⟩
          simpa [opened, hopen] using Fields.get?_over below h name

namespace Fields

/-- The fields of a section. -/
def sectionOf (fields : Fields) (name : String) : Fields := Datum.opened (fields.get? name)

/-- The fields with a section that is a table. -/
def openSection (fields : Fields) (name : String) : Fields :=
  fields.set name (.table (fields.sectionOf name))

/-- Opening a section leaves the other fields as they are. -/
theorem get?_openSection_of_ne (fields : Fields) {name other : String} (h : other ≠ name) :
    (fields.openSection name).get? other = fields.get? other :=
  get?_set_of_ne fields _ h

/-- A table over a section changes it field by field. -/
theorem get?_sectionOf_set (fields : Fields) (name : String) {upper : Fields}
    (h : upper.Distinct) :
    (∃ joint : Fields, (fields.set name (Datum.onto (fields.get? name) (.table upper))).get? name =
        some (.table joint)) ∧
      ∀ field, ((fields.set name (Datum.onto (fields.get? name) (.table upper))).sectionOf
        name).get? field = joined ((fields.sectionOf name).get? field) (upper.get? field) := by
  obtain ⟨joint, honto, hjoint⟩ := Datum.onto_table (fields.get? name) h
  rw [honto, sectionOf, get?_set_self]
  exact ⟨⟨joint, rfl⟩, hjoint⟩

/-- Opening a section leaves what stands in it as it is. -/
theorem sectionOf_openSection (fields : Fields) (name : String) :
    (fields.openSection name).sectionOf name = fields.sectionOf name := by
  rw [sectionOf, openSection, get?_set_self]
  rfl

/-- A section of an overlay that is a table above has the fields of both. -/
theorem get?_over_table (below : Fields) {upper fields : Fields} {name : String}
    (hupper : upper.Distinct) (hfields : fields.Distinct)
    (h : upper.get? name = some (.table fields)) :
    ∃ joint : Fields, (below.over upper).get? name = some (.table joint) ∧
      ∀ field, joint.get? field =
        joined ((below.sectionOf name).get? field) (fields.get? field) := by
  obtain ⟨joint, honto, hjoint⟩ := Datum.onto_table (below.get? name) hfields
  refine ⟨joint, ?_, hjoint⟩
  rw [get?_over below hupper, h]
  exact congrArg some honto

end Fields

end RobotCell
