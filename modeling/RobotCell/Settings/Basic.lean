import RobotCell.Controller.Transport
import RobotCell.LogLevel
import RobotCell.Program.Compiler
import RobotCell.Tracking.Window

/-!
# RobotCell.Settings.Basic

The settings of a robot cell, and what makes them usable.

Every setting has a default.  `Settings.defect?` finds the first fault; without one the level
lists are catalogs and the window can be set up.
-/

namespace RobotCell

/-! ## Sections -/

/-- The settings of the program itself. -/
structure ApplicationSettings where
  name : String := "rust_toro"
  logLevel : String := "info"
  deriving DecidableEq

/-- Where programs go, and who logs on. -/
structure ControllerSettings where
  task : String := "T_ROB1"
  module : String := "MainModule"
  programFile : String := "MainProgram.pgf"
  user : String := "Default User"
  password : String := "robotics"
  deriving DecidableEq

/-- The levels that speeds and zones are snapped to. -/
structure LevelSettings where
  speeds : List Binary64 := standardSpeedLevels
  zones : List Binary64 := standardZoneLevels
  deriving DecidableEq

/-- The settings of a robot cell. -/
structure Settings where
  application : ApplicationSettings := {}
  controller : ControllerSettings := {}
  catalog : LevelSettings := {}
  streaming : WindowConfig := {}
  deriving DecidableEq

namespace Settings

/-! ## Faults -/

/-- The entries of the speed catalog, named by the letter v. -/
def speedEntries (s : Settings) : List CatalogEntry :=
  s.catalog.speeds.map (CatalogEntry.named "v")

/-- The entries of the zone catalog, named by the letter z. -/
def zoneEntries (s : Settings) : List CatalogEntry :=
  s.catalog.zones.map (CatalogEntry.named "z")

/-- A text without a character that shows. -/
def isBlankText (s : String) : Bool := (trim s.toList).isEmpty

/-- The first fault, if there is one: the log level, the task, the module, the speeds, the zones,
and the window. -/
def defect? (s : Settings) : Option SettingsDefect :=
  if LogLevel.isName s.application.logLevel = false then some (.logLevel s.application.logLevel)
  else if isBlankText s.controller.task then some .emptyTask
  else if isBlankText s.controller.module then some .emptyModule
  else
    match catalogDefect? s.speedEntries, catalogDefect? s.zoneEntries with
    | some defect, _ => some (.speeds defect)
    | none, some defect => some (.zones defect)
    | none, none => s.streaming.defect?.map .streaming

/-- Fails when the settings have a fault. -/
def validate (s : Settings) : Except Failure Unit :=
  match s.defect? with
  | some defect => .error (.settings defect)
  | none => .ok ()

/-! ## Use -/

/-- The catalog of configured speeds. -/
def speedCatalog (s : Settings) : Except Failure Catalog :=
  match h : catalogDefect? s.speedEntries with
  | some defect => .error (.settings (.speeds defect))
  | none => .ok ⟨s.speedEntries, h⟩

/-- The catalog of configured zones. -/
def zoneCatalog (s : Settings) : Except Failure Catalog :=
  match h : catalogDefect? s.zoneEntries with
  | some defect => .error (.settings (.zones defect))
  | none => .ok ⟨s.zoneEntries, h⟩

/-- The compiler that snaps to the configured levels. -/
def compiler (s : Settings) : Except Failure Compiler :=
  match s.speedCatalog with
  | .error e => .error e
  | .ok speeds =>
    match s.zoneCatalog with
    | .error e => .error e
    | .ok zones => .ok { speeds, zones }

/-- The credentials for a logon. -/
def credentials (s : Settings) : Credentials := ⟨s.controller.user, s.controller.password⟩

end Settings

end RobotCell
