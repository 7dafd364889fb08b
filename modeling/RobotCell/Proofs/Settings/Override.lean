import RobotCell.Proofs.Settings.Environment
import RobotCell.Proofs.Settings.Setting

/-!
# RobotCell.Proofs.Settings.Override

Which settings a variable of the environment reaches.

A variable is split at every underscore.  Its path then leads to a setting whose name has none, and
past the others, to a name inside the section that no setting has.
-/

namespace RobotCell

open Environment

namespace Setting

/-! ## Paths -/

/-- The name of the variable for a setting. -/
def variableName (k : Setting) : String :=
  "TORO_" ++ k.sectionName.toUpper ++ "_" ++ k.field.toUpper

/-- The steps in the section that the variable leads to. -/
def steps (k : Setting) : List String := (splitSteps k.field.toList).map String.ofList

/-- A setting that has no underscore in its name. -/
def IsPlain (k : Setting) : Prop := '_' ∉ k.field.toList

instance (k : Setting) : Decidable k.IsPlain := inferInstanceAs (Decidable ('_' ∉ k.field.toList))

theorem path?_variableName (k : Setting) :
    path? k.variableName = some (k.sectionName :: k.steps) := by
  cases k <;> decide +kernel

/-- The steps lead to a plain setting, and to none if the name has an underscore. -/
theorem exists_steps (k : Setting) : ∃ step rest, k.steps = step :: rest ∧
    (k.IsPlain → step = k.field ∧ rest = []) ∧
    (¬k.IsPlain → ∀ other : Setting, other.field ≠ step) := by
  have hother (step : String) (h : step ∈ ["log", "program", "feed", "retire"]) :
      ∀ other : Setting, other.field ≠ step := by
    intro other
    cases other <;> exact fun heq => absurd (heq ▸ h) (by decide)
  cases k with
  | name | task | module | user | password | speeds | zones | window =>
      exact ⟨_, [], by decide, fun _ => ⟨rfl, rfl⟩, fun h => absurd (by decide) h⟩
  | logLevel =>
      exact ⟨"log", ["level"], by decide, fun h => absurd h (by decide),
        fun _ => hother _ (by decide)⟩
  | programFile =>
      exact ⟨"program", ["file"], by decide, fun h => absurd h (by decide),
        fun _ => hother _ (by decide)⟩
  | feedMargin =>
      exact ⟨"feed", ["margin"], by decide, fun h => absurd h (by decide),
        fun _ => hother _ (by decide)⟩
  | retireMargin =>
      exact ⟨"retire", ["margin"], by decide, fun h => absurd h (by decide),
        fun _ => hother _ (by decide)⟩

/-! ## Sources -/

/-- A section that is a table is asked for the name of the setting. -/
theorem said?_of_table {k : Setting} {fields inner : Fields}
    (h : fields.get? k.sectionName = some (.table inner)) :
    k.said? fields = valueOr (k.get {}) k.read? (inner.get? k.field) := by
  rw [said?, h]
  rfl

/-- A section that is no list is asked for the name of the setting, if it says anything. -/
theorem said?_sectionOf {k : Setting} {fields : Fields} {v : k.Value}
    (hlist : ∀ items, fields.get? k.sectionName ≠ some (.list items))
    (h : k.said? fields = some v) :
    valueOr (k.get {}) k.read? ((fields.sectionOf k.sectionName).get? k.field) = some v := by
  unfold said? at h
  unfold Fields.sectionOf
  cases hget : fields.get? k.sectionName with
  | none => rwa [hget] at h
  | some d =>
      rw [hget] at h
      cases d with
      | list items => exact absurd hget (hlist items)
      | table | date => exact h
      | null | bool | integer | float | string => cases h

theorem said?_congr {k : Setting} {fields fields' : Fields}
    (h : fields.get? k.sectionName = fields'.get? k.sectionName) :
    k.said? fields = k.said? fields' := by
  rw [said?, said?, h]

/-- Fields that say one setting anew, and the others as they are. -/
theorem said?_put {k : Setting} {v : k.Value} {s : Settings} {fields : Fields}
    (hk : k.said? fields = some v)
    (hothers : ∀ other ≠ k, other.said? fields = some (other.get s)) (other : Setting) :
    other.said? fields = some (other.get (k.put v s)) := by
  by_cases hother : other = k
  · subst hother
    rw [hk, get_put]
  · rw [hothers other hother, get_put_of_ne hother]

/-- Fields of a file and of variables over them, with a section that is a table in both. -/
def openedAt (k : Setting) (below given : Fields) : Fields :=
  (below.openSection k.sectionName).over (given.openSection k.sectionName)

section Over

variable {k : Setting} {below upper lower : Fields}

theorem get?_openedAt_of_ne (hlower : IsGiven lower) {name : String} (h : name ≠ k.sectionName) :
    (k.openedAt below lower).get? name = (below.over lower).get? name := by
  have hopen : (lower.openSection k.sectionName).Distinct := hlower.distinct.set _ _
  rw [openedAt, Fields.get?_over _ hopen, Fields.get?_over _ hlower.distinct,
    Fields.get?_openSection_of_ne _ h, Fields.get?_openSection_of_ne _ h]

theorem distinct_sectionOf (h : IsGiven lower) (name : String) :
    (lower.sectionOf name).Distinct := by
  unfold Fields.sectionOf
  cases hget : lower.get? name with
  | none => exact Fields.distinct_nil
  | some d =>
      have hd := h.isVariable name d hget
      cases d with
      | table fields => exact hd
      | null | bool | integer | float | string | date | list => exact Fields.distinct_nil

theorem get?_openedAt (k : Setting) (below : Fields) (hlower : IsGiven lower) :
    ∃ joint : Fields, (k.openedAt below lower).get? k.sectionName = some (.table joint) ∧
      ∀ field, joint.get? field =
        Fields.joined ((below.sectionOf k.sectionName).get? field)
          ((lower.sectionOf k.sectionName).get? field) := by
  have h := Fields.get?_over_table (below.openSection k.sectionName)
    (hlower.distinct.set k.sectionName (.table (lower.sectionOf k.sectionName)))
    (distinct_sectionOf hlower k.sectionName) (Fields.get?_set_self _ _ _)
  rwa [Fields.sectionOf_openSection] at h

variable {step : String} {value : Option Datum}

/-- The sources with and without a variable, seen by a setting: what the variable gives, or what
they say with the section opened. -/
theorem said?_over (below : Fields) (hupper : IsGiven upper) (hlower : IsGiven lower)
    (h : DiffersAt k.sectionName step value upper lower) (other : Setting) :
    (∀ d ∈ value, (∀ fields, d ≠ .table fields) → other.sectionName = k.sectionName →
        other.field = step → other.said? (below.over upper) = other.read? d) ∧
      ((other.sectionName = k.sectionName → other.field ≠ step) →
        other.said? (below.over upper) = other.said? (k.openedAt below lower)) := by
  obtain ⟨inner, hinner⟩ := h.isTable
  have hsection : upper.sectionOf k.sectionName = inner := by
    rw [Fields.sectionOf, hinner]
    rfl
  obtain ⟨joint, hjoint, hfields⟩ := Fields.get?_over_table below hupper.distinct
    (hupper.isVariable _ _ hinner : inner.Distinct) hinner
  constructor
  · intro d hd htable hname hstep
    have hvalue : inner.get? step = some d := hsection ▸ h.value d hd
    rw [said?_of_table (hname ▸ hjoint), hfields, hstep, hvalue]
    exact congrArg other.read? (Datum.onto_of_ne_table htable _)
  · intro hother
    by_cases hname : other.sectionName = k.sectionName
    · obtain ⟨joint', hjoint', hfields'⟩ := get?_openedAt k below hlower
      rw [said?_of_table (hname ▸ hjoint), said?_of_table (hname ▸ hjoint'), hfields, hfields',
        ← h.fields _ (hother hname), hsection]
    · refine said?_congr ?_
      rw [get?_openedAt_of_ne hlower hname, Fields.get?_over _ hupper.distinct,
        Fields.get?_over _ hlower.distinct, h.others _ hname]

/-- A section of which something is said has the fields of the file and of the variables. -/
theorem get?_sectionOf_over (hlower : IsGiven lower)
    (hlist : ∀ items, (below.over lower).get? k.sectionName ≠ some (.list items))
    {v : k.Value} (h : k.said? (below.over lower) = some v) (field : String) :
    ((below.over lower).sectionOf k.sectionName).get? field =
      Fields.joined ((below.sectionOf k.sectionName).get? field)
        ((lower.sectionOf k.sectionName).get? field) := by
  have hover := Fields.get?_over below hlower.distinct k.sectionName
  cases hget : lower.get? k.sectionName with
  | none =>
      rw [Fields.sectionOf, Fields.sectionOf, Fields.sectionOf, hover, hget]
      rfl
  | some d =>
      have hd := hlower.isVariable _ d hget
      rw [hget] at hover
      cases d with
      | table fields =>
          obtain ⟨joint, hjoint, hfields⟩ :=
            Fields.get?_over_table below hlower.distinct (hd : Fields.Distinct fields) hget
          have hinner : lower.sectionOf k.sectionName = fields := by
            rw [Fields.sectionOf, hget]
            rfl
          rw [hinner, ← hfields, Fields.sectionOf, hjoint]
          rfl
      | date => cases hd
      | list items =>
          refine absurd (hover.trans ?_) (hlist items)
          exact congrArg some (Datum.onto_of_ne_table (fun _ h => by cases h) _)
      | null | bool | integer | float | string =>
          have hsaid := hover.trans
            (congrArg some (Datum.onto_of_ne_table (fun _ h => by cases h) _))
          rw [said?, hsaid] at h
          cases h

/-- Opening a section changes nothing that is said, unless the section is a list. -/
theorem said?_openedAt (hlower : IsGiven lower)
    (hlist : ∀ items, (below.over lower).get? k.sectionName ≠ some (.list items))
    {other : Setting} {v : other.Value} (h : other.said? (below.over lower) = some v) :
    other.said? (k.openedAt below lower) = some v := by
  by_cases hname : other.sectionName = k.sectionName
  · rw [← hname] at hlist
    obtain ⟨joint, hjoint, hfields⟩ := get?_openedAt k below hlower
    rw [said?_of_table (hname ▸ hjoint), hfields, ← hname,
      ← get?_sectionOf_over hlower hlist h]
    exact said?_sectionOf hlist h
  · rwa [said?_congr (get?_openedAt_of_ne hlower hname)]

end Over

end Setting

/-! ## Loading -/

namespace Settings

/-- Settings, unless they have a fault. -/
def validated (s : Settings) : Except Failure Settings :=
  match s.validate with
  | .error e => .error e
  | .ok () => .ok s

theorem validated_eq_ok_iff {s t : Settings} :
    s.validated = .ok t ↔ s.validate = .ok () ∧ s = t := by
  unfold validated
  cases s.validate <;> simp

theorem validated_of_defect?_eq_none {s : Settings} (h : s.defect? = none) :
    s.validated = .ok s := by
  unfold validated validate
  rw [h]

/-- Settings that are said by all sources are loaded, if they have no fault. -/
theorem ofSources_of_said {file : Option FileNode} {environment : List (String × String)}
    {below : Fields} {s : Settings} (hfile : fileFields? file = some below)
    (h : ∀ k : Setting, k.said? (below.over (Environment.fields environment)) = some (k.get s)) :
    ofSources file environment = s.validated := by
  unfold ofSources
  simp only [hfile, Option.map_some, Option.bind_some, ofDatum?_eq_some_iff.mpr h]
  rfl

/-- Settings are loaded just when they are what the sources say, and without fault. -/
theorem ofSources_eq_ok_iff {file : Option FileNode} {environment : List (String × String)}
    {s : Settings} :
    ofSources file environment = .ok s ↔ s.validate = .ok () ∧
      ∃ below, fileFields? file = some below ∧
        ∀ k : Setting, k.said? (below.over (Environment.fields environment)) = some (k.get s) := by
  constructor
  · intro h
    have hread := h
    unfold ofSources at hread
    simp only at hread
    split at hread
    · cases hread
    · rename_i t ht
      obtain ⟨fields, hfields, hdatum⟩ := Option.bind_eq_some_iff.mp ht
      obtain ⟨below, hfile, rfl⟩ := Option.map_eq_some_iff.mp hfields
      have hsaid := ofDatum?_eq_some_iff.mp hdatum
      obtain ⟨hvalid, rfl⟩ := validated_eq_ok_iff.mp ((ofSources_of_said hfile hsaid).symm.trans h)
      exact ⟨hvalid, below, hfile, hsaid⟩
  · rintro ⟨hvalid, below, hfile, hsaid⟩
    exact (ofSources_of_said hfile hsaid).trans (validated_eq_ok_iff.mpr ⟨hvalid, rfl⟩)

end Settings

section Override

variable {k : Setting} {before after : List (String × String)} {name text : String} {v : k.Value}

/-- With a variable, a plain setting is what the variable says, and the others are what the sources
say with the section opened. -/
theorem Setting.said?_of_variable (before : List (String × String)) (below : Fields)
    (hname : path? name = path? k.variableName) (hread : k.read? (value text) = some v)
    (hafter : ∀ entry ∈ after, ¬Meet entry.1 name) :
    (k.IsPlain → k.said? (below.over (fields (before ++ (name, text) :: after))) = some v) ∧
      ∀ other : Setting, (k.IsPlain → other ≠ k) →
        other.said? (below.over (fields (before ++ (name, text) :: after))) =
          other.said? (k.openedAt below (fields (before ++ after))) := by
  obtain ⟨step, rest, hsteps, hplain, hunder⟩ := k.exists_steps
  have hpath : path? name = some (k.sectionName :: step :: rest) := by
    rw [hname, k.path?_variableName, hsteps]
  have htable := Setting.ne_table_of_read? hread
  have hdiffers : DiffersAt k.sectionName step (reached rest (value text))
      (fields (before ++ (name, text) :: after)) (fields (before ++ after)) :=
    differsAt_fields hpath htable hafter
  have hsaid := Setting.said?_over below (isGiven_fields _) (isGiven_fields _) hdiffers
  constructor
  · intro h
    obtain ⟨rfl, rfl⟩ := hplain h
    exact ((hsaid k).1 _ rfl htable rfl rfl).trans hread
  · intro other hother
    refine (hsaid other).2 fun _ hfield => ?_
    by_cases h : k.IsPlain
    · exact hother h (Setting.eq_of_field_eq (hfield.trans (hplain h).1))
    · exact hunder h other hfield

/-- **A variable reaches its setting just when the name of the setting has no underscore.**

Whatever the file and the other variables say, if no later variable gives something inside what this
one gives, or around it: with the variable, settings are loaded when they are without fault, the
setting has the value of the variable, and all others are what the sources say with the section of
the setting opened; but a setting with an underscore in its name is among the others.

So where settings load without the variable, and the section is not a list, the variable changes its
setting and nothing else if there is no underscore in its name, and nothing at all if there is
one. -/
theorem variable_overrides_iff {file : Option FileNode}
    (hname : path? name = path? k.variableName) (hread : k.read? (value text) = some v)
    (hafter : ∀ entry ∈ after, ¬Meet entry.1 name) :
    (∀ t, Settings.ofSources file (before ++ (name, text) :: after) = .ok t ↔
      t.validate = .ok () ∧ ∃ below, Settings.fileFields? file = some below ∧
        (k.IsPlain → k.get t = v) ∧
        ∀ other : Setting, (k.IsPlain → other ≠ k) →
          other.said? (k.openedAt below (fields (before ++ after))) = some (other.get t)) ∧
    ∀ s below, Settings.ofSources file (before ++ after) = .ok s →
      Settings.fileFields? file = some below →
      (∀ items, (below.over (fields (before ++ after))).get? k.sectionName ≠
        some (.list items)) →
      (Settings.ofSources file (before ++ (name, text) :: after) = (k.put v s).validated ↔
        k.IsPlain ∨ k.get s = v) := by
  have hwith := fun below => Setting.said?_of_variable before below hname hread hafter
  constructor
  · intro t
    rw [Settings.ofSources_eq_ok_iff]
    refine and_congr_right fun _ => exists_congr fun below => and_congr_right fun _ => ?_
    obtain ⟨hplain, hothers⟩ := hwith below
    constructor
    · intro h
      refine ⟨fun hk => ?_, fun other hother => (hothers other hother).symm.trans (h other)⟩
      exact Option.some.inj ((h k).symm.trans (hplain hk))
    · rintro ⟨hk, h⟩ other
      by_cases hother : k.IsPlain → other ≠ k
      · exact (hothers other hother).trans (h other hother)
      · obtain ⟨hp, heq⟩ := Classical.not_imp.mp hother
        obtain rfl := Classical.not_not.mp heq
        rw [hplain hp, hk hp]
  · intro s below hload hfile hlist
    obtain ⟨hplain, hothers⟩ := hwith below
    obtain ⟨hvalid, below', hfile', hsaid⟩ := Settings.ofSources_eq_ok_iff.mp hload
    obtain rfl := Option.some.inj (hfile'.symm.trans hfile)
    have hopened : ∀ other : Setting,
        other.said? (k.openedAt below' (fields (before ++ after))) = some (other.get s) :=
      fun other => Setting.said?_openedAt (isGiven_fields _) hlist (hsaid other)
    by_cases hk : k.IsPlain
    · have hput := Setting.said?_put (hplain hk) fun other hother =>
        (hothers other fun _ => hother).trans (hopened other)
      exact ⟨fun _ => .inl hk, fun _ => Settings.ofSources_of_said hfile hput⟩
    · have hsame : Settings.ofSources file (before ++ (name, text) :: after) = .ok s := by
        refine Settings.ofSources_eq_ok_iff.mpr ⟨hvalid, below', hfile, fun other => ?_⟩
        rw [hothers other fun h => absurd h hk, hopened]
      rw [hsame]
      constructor
      · intro h
        obtain ⟨-, hput⟩ := Settings.validated_eq_ok_iff.mp h.symm
        exact .inr (hput ▸ k.get_put v s)
      · rintro (h | h)
        · exact absurd h hk
        · rw [Setting.put_of_get_eq h]
          exact (Settings.validated_eq_ok_iff.mpr ⟨hvalid, rfl⟩).symm

end Override

/-- A file that names the task. -/
def taskFile : Option FileNode := some (.text "[controller]\ntask = \"T_CELL\"\n")

theorem ofSources_of_toOption {file : Option FileNode} {environment : List (String × String)}
    {s : Settings} (h : (Settings.ofSources file environment).toOption = some s) :
    Settings.ofSources file environment = .ok s := by
  cases hrun : Settings.ofSources file environment with
  | error e => rw [hrun] at h; cases h
  | ok t => rw [hrun] at h; exact congrArg Except.ok (Option.some.inj h)

/-- The task of a variable goes before that of the file, and the user of another variable stays. -/
theorem variable_overrides_iff_task :
    Settings.ofSources taskFile [("TORO_CONTROLLER_USER", "Operator")] =
        .ok { controller := { task := "T_CELL", user := "Operator" } } ∧
      Settings.ofSources taskFile
          [("TORO_CONTROLLER_TASK", "T_ROB2"), ("TORO_CONTROLLER_USER", "Operator")] =
        .ok { controller := { task := "T_ROB2", user := "Operator" } } := by
  have hname : path? "TORO_CONTROLLER_TASK" = path? Setting.task.variableName := by decide +kernel
  have hread : Setting.task.read? (value "T_ROB2") = some "T_ROB2" := by decide +kernel
  have hafter : ∀ entry ∈ [("TORO_CONTROLLER_USER", "Operator")],
      ¬Meet entry.1 "TORO_CONTROLLER_TASK" := by
    simp only [List.mem_singleton, forall_eq]
    rintro ⟨path, path', hpath, hpath', hprefix⟩
    have huser : path? "TORO_CONTROLLER_USER" = some ["controller", "user"] := by decide +kernel
    have htask : path? "TORO_CONTROLLER_TASK" = some ["controller", "task"] := by decide +kernel
    cases huser.symm.trans hpath
    cases htask.symm.trans hpath'
    exact absurd hprefix (by decide)
  have hload : Settings.ofSources taskFile ([] ++ [("TORO_CONTROLLER_USER", "Operator")]) =
      .ok { controller := { task := "T_CELL", user := "Operator" } } :=
    ofSources_of_toOption (by decide +kernel)
  obtain ⟨-, below, hfile, -⟩ := Settings.ofSources_eq_ok_iff.mp hload
  have hlist : ∀ items, (below.over (fields [("TORO_CONTROLLER_USER", "Operator")])).get?
      "controller" ≠ some (.list items) := by
    have hitems : ((Settings.fileFields? taskFile).bind fun below =>
        ((below.over (fields [("TORO_CONTROLLER_USER", "Operator")])).get? "controller").bind
          Datum.items?).isNone = true := by decide +kernel
    intro items h
    rw [hfile, Option.bind_some, h] at hitems
    cases hitems
  have hwith := ((variable_overrides_iff hname hread hafter).2 _ below hload hfile hlist).mpr
    (.inl (by decide))
  exact ⟨hload, hwith.trans (Settings.validated_of_defect?_eq_none (by decide +kernel))⟩

/-- The variable for the log level leaves the log level as it is. -/
theorem log_level_is_passed_over :
    Setting.logLevel.variableName = "TORO_APPLICATION_LOG_LEVEL" ∧
      Setting.logLevel.read? (value "debug") = some "debug" ∧
      (Setting.logLevel.put "debug" {}).validated = .ok (Setting.logLevel.put "debug" {}) ∧
      Settings.ofSources none [("TORO_APPLICATION_LOG_LEVEL", "debug")] = .ok {} ∧
      Setting.logLevel.get {} = "info" :=
  ⟨by decide +kernel, by decide +kernel,
    Settings.validated_of_defect?_eq_none (by decide +kernel),
    ofSources_of_toOption (by decide +kernel), rfl⟩

end RobotCell
