import RobotCell.Proofs.Data.Overlay
import RobotCell.Settings.Load

/-!
# RobotCell.Proofs.Settings.Setting

The settings of a robot cell, one by one.

A setting has a section, a name in it and a position among the fields of the section.  What the
fields of all sources say of it (`Setting.said?`) depends on its section only: a table has it under
its name, a list at its position, and where it is not found its default counts.  Settings are read
just when every one of them is (`Settings.ofDatum?_eq_some_iff`).
-/

namespace RobotCell

/-! ## Records -/

/-- What a field is read as, or a default if it is not there. -/
def valueOr {α : Type} (default : α) (decode : Datum → Option α) (d : Option Datum) : Option α :=
  match d with
  | some d => decode d
  | none => some default

namespace Record

/-- The field of a name, or at a position. -/
def field? (r : Record) (name : String) (position : Nat) : Option Datum :=
  match r with
  | .named fields => fields.get? name
  | .listed items => items[position]?

/-- A record of which some fields are read. -/
def after (r : Record) (count : Nat) : Record :=
  match r with
  | .named fields => .named fields
  | .listed items => .listed (items.drop count)

theorem after_zero (r : Record) : r.after 0 = r := by
  cases r <;> rfl

end Record

namespace RecordM

variable {α β : Type}

/-- A field is read by its name or by the next position, or has its default. -/
theorem optional_after (name : String) (default : α) (decode : Datum → Option α) (r : Record)
    (count : Nat) :
    optional name default decode (r.after count) =
      (valueOr default decode (r.field? name count)).map fun a => (a, r.after (count + 1)) := by
  cases r with
  | named fields =>
      simp only [optional, Record.after, Record.field?]
      cases fields.get? name <;> rfl
  | listed items =>
      simp only [optional, Record.after, Record.field?]
      cases hitems : items.drop count with
      | nil =>
          have hlength := List.drop_eq_nil_iff.mp hitems
          rw [List.getElem?_eq_none hlength, List.drop_eq_nil_of_le (Nat.le_succ_of_le hlength)]
          rfl
      | cons d rest =>
          have hget : items[count]? = some d := by
            rw [← List.head?_drop, hitems]
            rfl
          have hrest : items.drop (count + 1) = rest := by
            rw [← List.tail_drop, hitems]
            rfl
          rw [hget, hrest]
          rfl

/-- The fields behind it go on from the next position. -/
theorem optional_bind (name : String) (default : α) (decode : Datum → Option α)
    (next : α → RecordM β) (r : Record) (count : Nat) :
    (optional name default decode >>= next) (r.after count) =
      (valueOr default decode (r.field? name count)).bind fun a => next a (r.after (count + 1)) := by
  show (optional name default decode (r.after count)).bind _ = _
  rw [optional_after]
  cases valueOr default decode (r.field? name count) <;> rfl

/-- A record is read field by field, and unknown names are passed over. -/
theorem run_ignored (body : RecordM α) (d : Datum) :
    run .ignored body d = (Record.ofDatum? d).bind fun r => (body (r.after 0)).map Prod.fst := by
  unfold run
  cases hrecord : Record.ofDatum? d with
  | none => rfl
  | some r =>
      simp only [Option.bind_some, Record.after_zero]
      rcases body r with _ | ⟨a, _ | rest⟩ <;> rfl

end RecordM

/-! ## Settings -/

/-- The settings of a robot cell, one by one. -/
inductive Setting where
  | name
  | logLevel
  | task
  | module
  | programFile
  | user
  | password
  | speeds
  | zones
  | window
  | feedMargin
  | retireMargin
  deriving DecidableEq

namespace Setting

/-- The name of the section. -/
def sectionName : Setting → String
  | name | logLevel => "application"
  | task | module | programFile | user | password => "controller"
  | speeds | zones => "catalog"
  | window | feedMargin | retireMargin => "streaming"

/-- The name in the section. -/
def field : Setting → String
  | name => "name"
  | logLevel => "log_level"
  | task => "task"
  | module => "module"
  | programFile => "program_file"
  | user => "user"
  | password => "password"
  | speeds => "speeds"
  | zones => "zones"
  | window => "window"
  | feedMargin => "feed_margin"
  | retireMargin => "retire_margin"

/-- The position in a section that is a list. -/
def position : Setting → Nat
  | name | task | speeds | window => 0
  | logLevel | module | zones | feedMargin => 1
  | programFile | retireMargin => 2
  | user => 3
  | password => 4

/-- The values that a setting may have. -/
abbrev Value : Setting → Type
  | speeds | zones => List Binary64
  | window | feedMargin | retireMargin => Nat
  | _ => String

/-- The value among all settings. -/
def get : (k : Setting) → Settings → k.Value
  | name, s => s.application.name
  | logLevel, s => s.application.logLevel
  | task, s => s.controller.task
  | module, s => s.controller.module
  | programFile, s => s.controller.programFile
  | user, s => s.controller.user
  | password, s => s.controller.password
  | speeds, s => s.catalog.speeds
  | zones, s => s.catalog.zones
  | window, s => s.streaming.window
  | feedMargin, s => s.streaming.feedMargin
  | retireMargin, s => s.streaming.retireMargin

/-- All settings with one of them changed. -/
def put : (k : Setting) → k.Value → Settings → Settings
  | name, v, s => { s with application.name := v }
  | logLevel, v, s => { s with application.logLevel := v }
  | task, v, s => { s with controller.task := v }
  | module, v, s => { s with controller.module := v }
  | programFile, v, s => { s with controller.programFile := v }
  | user, v, s => { s with controller.user := v }
  | password, v, s => { s with controller.password := v }
  | speeds, v, s => { s with catalog.speeds := v }
  | zones, v, s => { s with catalog.zones := v }
  | window, v, s => { s with streaming.window := v }
  | feedMargin, v, s => { s with streaming.feedMargin := v }
  | retireMargin, v, s => { s with streaming.retireMargin := v }

/-- The value of data in a settings file or a variable. -/
def read? : (k : Setting) → Datum → Option k.Value
  | speeds | zones => Datum.listOf? Datum.float?
  | window | feedMargin | retireMargin => Datum.word?
  | name | logLevel | task | module | programFile | user | password => Datum.string?

/-- A setting that is put is there. -/
theorem get_put (k : Setting) (v : k.Value) (s : Settings) : k.get (k.put v s) = v := by
  cases k <;> rfl

/-- The others stay as they are. -/
theorem get_put_of_ne {k other : Setting} (h : other ≠ k) (v : k.Value) (s : Settings) :
    other.get (k.put v s) = other.get s := by
  cases k <;> cases other <;> first | rfl | exact absurd rfl h

/-- Settings are the same when each of them is. -/
theorem ext_get {s t : Settings} (h : ∀ k : Setting, k.get s = k.get t) : s = t := by
  obtain ⟨⟨_, _⟩, ⟨_, _, _, _, _⟩, ⟨_, _⟩, ⟨_, _, _⟩⟩ := s
  obtain ⟨⟨_, _⟩, ⟨_, _, _, _, _⟩, ⟨_, _⟩, ⟨_, _, _⟩⟩ := t
  simp only [Settings.mk.injEq, ApplicationSettings.mk.injEq, ControllerSettings.mk.injEq,
    LevelSettings.mk.injEq, WindowConfig.mk.injEq]
  exact ⟨⟨h .name, h .logLevel⟩, ⟨h .task, h .module, h .programFile, h .user, h .password⟩,
    ⟨h .speeds, h .zones⟩, h .window, h .feedMargin, h .retireMargin⟩

/-- A setting that has its value already stays as it is. -/
theorem put_of_get_eq {k : Setting} {v : k.Value} {s : Settings} (h : k.get s = v) :
    k.put v s = s := by
  subst h
  refine ext_get fun other => ?_
  by_cases hother : other = k
  · subst hother
    exact other.get_put _ s
  · exact get_put_of_ne hother _ s

/-- The setting of a name. -/
def ofField? (field : String) : Option Setting :=
  [name, logLevel, task, module, programFile, user, password, speeds, zones, window, feedMargin,
    retireMargin].find? (·.field == field)

/-- A setting is found by the name of its field. -/
theorem ofField?_field (k : Setting) : ofField? k.field = some k := by
  cases k <;> decide

/-- Settings differ in their names. -/
theorem eq_of_field_eq {k other : Setting} (h : other.field = k.field) : other = k :=
  Option.some.inj (other.ofField?_field.symm.trans (h ▸ k.ofField?_field))

/-- No setting is a table. -/
theorem ne_table_of_read? {k : Setting} {d : Datum} {v : k.Value} (h : k.read? d = some v)
    (fields : Fields) : d ≠ .table fields := by
  rintro rfl
  cases k <;> cases h

/-- The record of a section; one that is left out has no fields. -/
def record? (d : Option Datum) : Option Record := valueOr (.named []) Record.ofDatum? d

/-- What fields say of a setting. -/
def said? (k : Setting) (fields : Fields) : Option k.Value :=
  (record? (fields.get? k.sectionName)).bind fun r =>
    valueOr (k.get {}) k.read? (r.field? k.field k.position)

/-- What a record says of a setting. -/
def SaidBy (k : Setting) (r : Record) (v : k.Value) : Prop :=
  valueOr (k.get {}) k.read? (r.field? k.field k.position) = some v

/-- What fields say about a setting is said in the record of its section. -/
theorem said?_eq_some_iff {k : Setting} {fields : Fields} {v : k.Value} :
    k.said? fields = some v ↔ ∃ r, record? (fields.get? k.sectionName) = some r ∧ k.SaidBy r v :=
  Option.bind_eq_some_iff

end Setting

/-! ## Sections -/

open Setting

/-- A section is read from its record, also when it is left out. -/
theorem valueOr_run {α : Type} {default : α} {body : RecordM α}
    (h : (body (.named [])).map Prod.fst = some default) (d : Option Datum) :
    valueOr default (RecordM.run .ignored body) d =
      (record? d).bind fun r => (body (r.after 0)).map Prod.fst := by
  cases d with
  | none => exact h.symm
  | some d => exact RecordM.run_ignored body d

/-- The application is read as its two settings. -/
theorem ApplicationSettings.section_eq_some_iff {d : Option Datum} {a : ApplicationSettings} :
    valueOr {} (ApplicationSettings.ofDatum? .ignored) d = some a ↔
      ∃ r, record? d = some r ∧ Setting.name.SaidBy r a.name ∧
        Setting.logLevel.SaidBy r a.logLevel := by
  unfold ApplicationSettings.ofDatum?
  rw [valueOr_run rfl, Option.bind_eq_some_iff]
  refine exists_congr fun r => and_congr_right fun _ => ?_
  simp only [RecordM.optional_bind, Option.map_bind, Option.bind_eq_some_iff, Function.comp_apply]
  constructor
  · rintro ⟨name, hname, level, hlevel, h⟩
    cases h
    exact ⟨hname, hlevel⟩
  · rintro ⟨hname, hlevel⟩
    exact ⟨_, hname, _, hlevel, rfl⟩

/-- The controller is read as its five settings. -/
theorem ControllerSettings.section_eq_some_iff {d : Option Datum} {c : ControllerSettings} :
    valueOr {} (ControllerSettings.ofDatum? .ignored) d = some c ↔
      ∃ r, record? d = some r ∧ Setting.task.SaidBy r c.task ∧
        Setting.module.SaidBy r c.module ∧ Setting.programFile.SaidBy r c.programFile ∧
        Setting.user.SaidBy r c.user ∧ Setting.password.SaidBy r c.password := by
  unfold ControllerSettings.ofDatum?
  rw [valueOr_run rfl, Option.bind_eq_some_iff]
  refine exists_congr fun r => and_congr_right fun _ => ?_
  simp only [RecordM.optional_bind, Option.map_bind, Option.bind_eq_some_iff, Function.comp_apply]
  constructor
  · rintro ⟨task, htask, module, hmodule, file, hfile, user, huser, password, hpassword, h⟩
    cases h
    exact ⟨htask, hmodule, hfile, huser, hpassword⟩
  · rintro ⟨htask, hmodule, hfile, huser, hpassword⟩
    exact ⟨_, htask, _, hmodule, _, hfile, _, huser, _, hpassword, rfl⟩

/-- The levels are read as their two settings. -/
theorem LevelSettings.section_eq_some_iff {d : Option Datum} {l : LevelSettings} :
    valueOr {} (LevelSettings.ofDatum? .ignored) d = some l ↔
      ∃ r, record? d = some r ∧ Setting.speeds.SaidBy r l.speeds ∧
        Setting.zones.SaidBy r l.zones := by
  unfold LevelSettings.ofDatum?
  rw [valueOr_run rfl, Option.bind_eq_some_iff]
  refine exists_congr fun r => and_congr_right fun _ => ?_
  simp only [RecordM.optional_bind, Option.map_bind, Option.bind_eq_some_iff, Function.comp_apply]
  constructor
  · rintro ⟨speeds, hspeeds, zones, hzones, h⟩
    cases h
    exact ⟨hspeeds, hzones⟩
  · rintro ⟨hspeeds, hzones⟩
    exact ⟨_, hspeeds, _, hzones, rfl⟩

/-- The window is read as its three settings. -/
theorem WindowConfig.section_eq_some_iff {d : Option Datum} {w : WindowConfig} :
    valueOr {} (WindowConfig.ofPartial? .ignored) d = some w ↔
      ∃ r, record? d = some r ∧ Setting.window.SaidBy r w.window ∧
        Setting.feedMargin.SaidBy r w.feedMargin ∧
        Setting.retireMargin.SaidBy r w.retireMargin := by
  unfold WindowConfig.ofPartial?
  rw [valueOr_run rfl, Option.bind_eq_some_iff]
  refine exists_congr fun r => and_congr_right fun _ => ?_
  simp only [RecordM.optional_bind, Option.map_bind, Option.bind_eq_some_iff, Function.comp_apply]
  constructor
  · rintro ⟨window, hwindow, feed, hfeed, retire, hretire, h⟩
    cases h
    exact ⟨hwindow, hfeed, hretire⟩
  · rintro ⟨hwindow, hfeed, hretire⟩
    exact ⟨_, hwindow, _, hfeed, _, hretire, rfl⟩

/-- Settings are read from fields just when each of them is what the fields say of it. -/
theorem Settings.ofDatum?_eq_some_iff {fields : Fields} {s : Settings} :
    Settings.ofDatum? .ignored (.table fields) = some s ↔
      ∀ k : Setting, k.said? fields = some (k.get s) := by
  unfold Settings.ofDatum?
  rw [RecordM.run_ignored]
  simp only [Record.ofDatum?, Option.bind_some, RecordM.optional_bind, Option.map_bind,
    Option.bind_eq_some_iff, Function.comp_apply, ApplicationSettings.section_eq_some_iff,
    ControllerSettings.section_eq_some_iff, LevelSettings.section_eq_some_iff,
    WindowConfig.section_eq_some_iff, said?_eq_some_iff]
  constructor
  · rintro ⟨a, ⟨ra, hra, hname, hlevel⟩, c, ⟨rc, hrc, htask, hmodule, hfile, huser, hpassword⟩,
      l, ⟨rl, hrl, hspeeds, hzones⟩, w, ⟨rw, hrw, hwindow, hfeed, hretire⟩, h⟩ k
    cases h
    cases k with
    | name => exact ⟨ra, hra, hname⟩
    | logLevel => exact ⟨ra, hra, hlevel⟩
    | task => exact ⟨rc, hrc, htask⟩
    | module => exact ⟨rc, hrc, hmodule⟩
    | programFile => exact ⟨rc, hrc, hfile⟩
    | user => exact ⟨rc, hrc, huser⟩
    | password => exact ⟨rc, hrc, hpassword⟩
    | speeds => exact ⟨rl, hrl, hspeeds⟩
    | zones => exact ⟨rl, hrl, hzones⟩
    | window => exact ⟨rw, hrw, hwindow⟩
    | feedMargin => exact ⟨rw, hrw, hfeed⟩
    | retireMargin => exact ⟨rw, hrw, hretire⟩
  · intro h
    -- a section has one record, which says all that is said of its settings
    have hsection : ∀ {k : Setting} {r : Record}, record? (fields.get? k.sectionName) = some r →
        k.SaidBy r (k.get s) := by
      intro k r hr
      obtain ⟨r', hr', hsaid⟩ := h k
      rwa [Option.some.inj (hr.symm.trans hr')]
    obtain ⟨ra, hra, hname⟩ := h .name
    obtain ⟨rc, hrc, htask⟩ := h .task
    obtain ⟨rl, hrl, hspeeds⟩ := h .speeds
    obtain ⟨rw, hrw, hwindow⟩ := h .window
    exact ⟨s.application, ⟨ra, hra, hname, hsection hra⟩,
      s.controller, ⟨rc, hrc, htask, hsection hrc, hsection hrc, hsection hrc, hsection hrc⟩,
      s.catalog, ⟨rl, hrl, hspeeds, hsection hrl⟩,
      s.streaming, ⟨rw, hrw, hwindow, hsection hrw, hsection hrw⟩, rfl⟩

end RobotCell
