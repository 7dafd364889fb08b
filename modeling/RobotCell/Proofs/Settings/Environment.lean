import RobotCell.Proofs.Data.Overlay
import RobotCell.Settings.Environment

/-!
# RobotCell.Proofs.Settings.Environment

The fields that variables of the environment give, and what one of them changes.

A variable lays its value over what the steps of its path lead to.  With it the fields are the same
as without, but for this one place (`DiffersAt`), and the section that the place is in is a table in
any case.  This is so for the fields of a whole environment, if no later variable gives something
inside what the first gives, or around it (`differsAt_fields`).
-/

namespace RobotCell

/-! ## Values of variables -/

/-- What a variable may give: no date, and no table with a name twice. -/
def Datum.IsVariable : Datum → Prop
  | .date _ => False
  | .table fields => Fields.Distinct fields
  | _ => True

namespace Environment

/-- Fields that are read have distinct names. -/
theorem distinct_of_readEntries {bound : Nat} {before fields : Fields} {cs rest : List Char}
    (hbefore : before.Distinct) (h : readEntries bound before cs = some (fields, rest)) :
    fields.Distinct := by
  induction bound generalizing before cs with
  | zero => cases h
  | succ bound ih =>
      unfold readEntries at h
      split at h
      · cases h
        exact hbefore
      split at h
      · split at h
        · exact ih (hbefore.set _ _) h
        · cases h
          exact hbefore.set _ _
        · cases h
      · cases h

/-- A word is something that a variable can say. -/
theorem isVariable_wordValue (cs : List Char) : (wordValue cs).IsVariable := by
  unfold wordValue
  simp only
  split <;> trivial

/-- So is whatever is read. -/
theorem isVariable_of_readValue {bound : Nat} {cs rest : List Char} {d : Datum}
    (h : readValue bound cs = some (d, rest)) : d.IsVariable := by
  cases bound with
  | zero => cases h
  | succ bound =>
      unfold readValue at h
      obtain ⟨⟨d', more⟩, hvalue, hd⟩ := Option.map_eq_some_iff.mp h
      obtain rfl := (Prod.mk.inj hd).1
      split at hvalue
      case h_3 =>
          obtain ⟨r, hentries, hr⟩ := Option.map_eq_some_iff.mp hvalue
          obtain rfl := (Prod.mk.inj hr).1
          exact distinct_of_readEntries Fields.distinct_nil hentries
      case h_8 =>
          obtain rfl := (Prod.mk.inj (Option.some.inj hvalue)).1
          exact isVariable_wordValue _
      case h_4 | h_5 =>
          obtain ⟨r, -, hr⟩ := Option.map_eq_some_iff.mp hvalue
          obtain rfl := (Prod.mk.inj hr).1
          trivial
      all_goals
        cases hvalue
        try trivial

/-- The value of a variable. -/
theorem isVariable_value (text : String) : (value text).IsVariable := by
  unfold value
  simp only
  split
  · rename_i h
    exact isVariable_of_readValue h
  · trivial

/-! ## Fields of variables -/

/-- Fields that variables give. -/
structure IsGiven (fields : Fields) : Prop where
  distinct : fields.Distinct
  isVariable : ∀ name d, fields.get? name = some d → d.IsVariable

/-- What two variables say joined is something a variable can say. -/
theorem isVariable_over {lower upper : Datum} (hlower : lower.IsVariable)
    (hupper : upper.IsVariable) : (lower.over upper).IsVariable := by
  cases upper with
  | table fields =>
      cases lower with
      | table below => exact Fields.Distinct.over hlower fields
      | date => cases hlower
      | null | bool | integer | float | string | list => exact hupper
  | null | bool | integer | float | string | date | list => exact hupper

/-- So is what one says where nothing was said before. -/
theorem isVariable_onto {lower : Option Datum} {d : Datum} (hlower : ∀ l ∈ lower, l.IsVariable)
    (h : d.IsVariable) : (Datum.onto lower d).IsVariable := by
  cases lower with
  | none => exact h
  | some l => exact isVariable_over (hlower l rfl) h

/-- Saying one more thing keeps fields as variables give them. -/
theorem IsGiven.set {fields : Fields} (h : IsGiven fields) (name : String) {d : Datum}
    (hd : d.IsVariable) : IsGiven (fields.set name (Datum.onto (fields.get? name) d)) := by
  refine ⟨h.distinct.set _ _, fun other d' hd' => ?_⟩
  by_cases hname : other = name
  · subst hname
    rw [Fields.get?_set_self] at hd'
    obtain rfl := Option.some.inj hd'
    exact isVariable_onto (fun l hl => h.isVariable other l hl) hd
  · rw [Fields.get?_set_of_ne _ _ hname] at hd'
    exact h.isVariable other d' hd'

/-- So is what one says below a path. -/
theorem isVariable_atPath (path : List String) {d : Datum} (h : d.IsVariable) :
    (Datum.atPath path d).IsVariable := by
  cases path with
  | nil => exact h
  | cons name path => exact Fields.distinct_singleton name _

/-- A name has a step. -/
theorem splitSteps_ne_nil (cs : List Char) : splitSteps cs ≠ [] := by
  cases cs with
  | nil => simp [splitSteps]
  | cons c rest =>
      unfold splitSteps
      split
      · simp
      · split <;> simp

/-- A path has a first step. -/
theorem exists_cons_of_path? {name : String} {path : List String} (h : path? name = some path) :
    ∃ first rest, path = first :: rest := by
  unfold path? at h
  simp only at h
  split at h
  · split at h
    · cases h
    · obtain rfl := Option.some.inj h
      exact List.exists_cons_of_ne_nil (by simpa using splitSteps_ne_nil _)
  · cases h

/-- A variable changes the fields at the first step of its path. -/
theorem addVariable_eq {fields : Fields} {name text first : String} {rest : List String}
    (h : path? name = some (first :: rest)) :
    addVariable fields (name, text) = fields.set first
      (Datum.onto (fields.get? first) (Datum.atPath rest (value text))) := by
  unfold addVariable
  rw [h]
  exact Fields.over_cons fields first _ []

/-- A variable of another prefix is passed over. -/
theorem addVariable_of_path?_none {fields : Fields} {entry : String × String}
    (h : path? entry.1 = none) : addVariable fields entry = fields := by
  unfold addVariable
  rw [h]

/-- One more variable keeps fields as variables give them. -/
theorem IsGiven.addVariable {fields : Fields} (h : IsGiven fields) (entry : String × String) :
    IsGiven (addVariable fields entry) := by
  cases hpath : path? entry.1 with
  | none => rwa [addVariable_of_path?_none hpath]
  | some path =>
      obtain ⟨first, rest, rfl⟩ := exists_cons_of_path? hpath
      rw [addVariable_eq hpath]
      exact h.set first (isVariable_atPath rest (isVariable_value _))

/-- The fields of an environment are as variables give them. -/
theorem isGiven_fields (environment : List (String × String)) :
    IsGiven (fields environment) := by
  have hfold : ∀ (environment : List (String × String)) {start : Fields}, IsGiven start →
      IsGiven (environment.foldl addVariable start) := by
    intro environment
    induction environment with
    | nil => exact id
    | cons entry rest ih => exact fun h => ih (h.addVariable entry)
  exact hfold environment ⟨Fields.distinct_nil, fun _ _ h => by cases h⟩

/-! ## Variables that come after another -/

/-- Two variables of which one gives something inside what the other gives. -/
def Meet (name other : String) : Prop :=
  ∃ path path', path? name = some path ∧ path? other = some path' ∧
    (path <+: path' ∨ path' <+: path)

/-- Fields over others that they agree with, but for what a step in one section leads to. -/
structure DiffersAt (first step : String) (value : Option Datum) (upper lower : Fields) :
    Prop where
  others : ∀ name ≠ first, upper.get? name = lower.get? name
  isTable : ∃ fields : Fields, upper.get? first = some (.table fields)
  fields : ∀ field ≠ step,
    (upper.sectionOf first).get? field = (lower.sectionOf first).get? field
  value : ∀ d ∈ value, (upper.sectionOf first).get? step = some d

/-- What a path leads to, if it ends after a step in a section. -/
def reached (rest : List String) (d : Datum) : Option Datum := if rest = [] then some d else none

/-- A variable changes what its path leads to. -/
theorem differsAt_addVariable (fields : Fields) {name text first step : String}
    {rest : List String} (h : path? name = some (first :: step :: rest))
    (htable : ∀ fields, value text ≠ .table fields) :
    DiffersAt first step (reached rest (value text)) (addVariable fields (name, text)) fields := by
  have hupper := Fields.distinct_singleton step (Datum.atPath rest (value text))
  obtain ⟨hjoint, hfields⟩ := Fields.get?_sectionOf_set fields first hupper
  rw [addVariable_eq h]
  refine ⟨fun name hname => Fields.get?_set_of_ne _ _ hname, hjoint, fun field hfield => ?_,
    fun d hd => ?_⟩
  · refine (hfields field).trans ?_
    rw [Fields.get?_singleton_of_ne hfield]
    rfl
  · unfold reached at hd
    split at hd
    · rename_i hrest
      cases hd
      refine (hfields step).trans ?_
      rw [Fields.get?_singleton_self, hrest]
      exact congrArg some (Datum.onto_of_ne_table htable _)
    · cases hd

namespace DiffersAt

variable {first step : String} {upper lower : Fields}

/-- What is laid over another section leaves the difference. -/
theorem set_of_ne {reached : Option Datum} (h : DiffersAt first step reached upper lower)
    {name : String} (hname : first ≠ name) (d : Datum) :
    DiffersAt first step reached (upper.set name (Datum.onto (upper.get? name) d))
      (lower.set name (Datum.onto (lower.get? name) d)) := by
  obtain ⟨fields, hfields⟩ := h.isTable
  refine ⟨fun other hother => ?_, ⟨fields, ?_⟩, fun field hfield => ?_, fun d' hd' => ?_⟩
  · by_cases hsame : other = name
    · subst hsame
      rw [Fields.get?_set_self, Fields.get?_set_self, h.others other hother]
    · rw [Fields.get?_set_of_ne _ _ hsame, Fields.get?_set_of_ne _ _ hsame, h.others other hother]
  · rw [Fields.get?_set_of_ne _ _ hname, hfields]
  · rw [Fields.sectionOf, Fields.sectionOf, Fields.get?_set_of_ne _ _ hname,
      Fields.get?_set_of_ne _ _ hname]
    exact h.fields field hfield
  · rw [Fields.sectionOf, Fields.get?_set_of_ne _ _ hname]
    exact h.value d' hd'

/-- What is laid over the section leaves the difference, unless it changes what the step leads
to. -/
theorem set_section {reached : Option Datum} (h : DiffersAt first step reached upper lower)
    {inner : String} (hinner : ∀ d ∈ reached, step ≠ inner) (d : Datum) :
    DiffersAt first step reached
      (upper.set first (Datum.onto (upper.get? first) (.table [(inner, d)])))
      (lower.set first (Datum.onto (lower.get? first) (.table [(inner, d)]))) := by
  obtain ⟨hjoint, hupper⟩ :=
    Fields.get?_sectionOf_set upper first (Fields.distinct_singleton inner d)
  obtain ⟨-, hlower⟩ := Fields.get?_sectionOf_set lower first (Fields.distinct_singleton inner d)
  refine ⟨fun other hother => ?_, hjoint, fun field hfield => ?_, fun d' hd' => ?_⟩
  · rw [Fields.get?_set_of_ne _ _ hother, Fields.get?_set_of_ne _ _ hother, h.others other hother]
  · rw [hupper field, hlower field, h.fields field hfield]
  · rw [hupper step, Fields.get?_singleton_of_ne (hinner d' hd')]
    exact h.value d' hd'

/-- A later variable leaves the difference, unless it meets the path. -/
theorem addVariable {d : Datum} {rest : List String}
    (h : DiffersAt first step (reached rest d) upper lower) {entry : String × String}
    (hmeet : ∀ path, path? entry.1 = some path →
      ¬(path <+: first :: step :: rest ∨ first :: step :: rest <+: path)) :
    DiffersAt first step (reached rest d) (Environment.addVariable upper entry)
      (Environment.addVariable lower entry) := by
  cases hpath : path? entry.1 with
  | none => rwa [addVariable_of_path?_none hpath, addVariable_of_path?_none hpath]
  | some path =>
      obtain ⟨name, more, rfl⟩ := exists_cons_of_path? hpath
      have hmeet := hmeet _ hpath
      rw [addVariable_eq hpath, addVariable_eq hpath]
      by_cases hname : first = name
      · subst hname
        cases more with
        | nil => exact absurd (.inl (List.cons_prefix_cons.mpr ⟨rfl, List.nil_prefix⟩)) hmeet
        | cons inner more =>
            refine h.set_section (fun d' hd' => ?_) (Datum.atPath more (Environment.value entry.2))
            rintro rfl
            unfold reached at hd'
            split at hd'
            · rename_i hrest
              subst hrest
              exact hmeet (.inr (by simp [List.cons_prefix_cons]))
            · cases hd'
      · exact h.set_of_ne hname _

end DiffersAt

/-- Fields of variables with and without one of them. -/
theorem differsAt_fields {before after : List (String × String)} {name text first step : String}
    {rest : List String} (hname : path? name = some (first :: step :: rest))
    (htable : ∀ fields, value text ≠ .table fields) (hafter : ∀ entry ∈ after, ¬Meet entry.1 name) :
    DiffersAt first step (reached rest (value text))
      (fields (before ++ (name, text) :: after)) (fields (before ++ after)) := by
  have hfold : ∀ (after : List (String × String)) {upper lower : Fields},
      (∀ entry ∈ after, ¬Meet entry.1 name) →
      DiffersAt first step (reached rest (value text)) upper lower →
        DiffersAt first step (reached rest (value text)) (after.foldl addVariable upper)
          (after.foldl addVariable lower) := by
    intro after
    induction after with
    | nil => exact fun _ h => h
    | cons entry rest ih =>
        intro upper lower hmeet h
        obtain ⟨hentry, hrest⟩ := List.forall_mem_cons.mp hmeet
        exact ih hrest (h.addVariable fun path hpath hprefix =>
          hentry ⟨path, _, hpath, hname, hprefix⟩)
  unfold fields
  rw [List.foldl_append, List.foldl_append, List.foldl_cons]
  exact hfold after hafter (differsAt_addVariable _ hname htable)

end Environment

end RobotCell
