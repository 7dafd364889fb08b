import RobotCell.Exchange.Records
import RobotCell.Settings.Basic

/-!
# RobotCell.Exchange.Settings

Settings as structured data: a record of four sections, each a record of its settings, in which
everything may be left out.
-/

namespace RobotCell

namespace ApplicationSettings

def ofDatum? (s : Surplus) : Datum → Option ApplicationSettings :=
  let base : ApplicationSettings := {}
  RecordM.run s do
    let name ← RecordM.optional "name" base.name Datum.string?
    let logLevel ← RecordM.optional "log_level" base.logLevel Datum.string?
    return { name, logLevel }

def toFields (a : ApplicationSettings) : Fields :=
  [("name", .string a.name), ("log_level", .string a.logLevel)]

end ApplicationSettings

namespace ControllerSettings

def ofDatum? (s : Surplus) : Datum → Option ControllerSettings :=
  let base : ControllerSettings := {}
  RecordM.run s do
    let task ← RecordM.optional "task" base.task Datum.string?
    let module ← RecordM.optional "module" base.module Datum.string?
    let programFile ← RecordM.optional "program_file" base.programFile Datum.string?
    let user ← RecordM.optional "user" base.user Datum.string?
    let password ← RecordM.optional "password" base.password Datum.string?
    return { task, module, programFile, user, password }

def toFields (c : ControllerSettings) : Fields :=
  [("task", .string c.task), ("module", .string c.module),
    ("program_file", .string c.programFile), ("user", .string c.user),
    ("password", .string c.password)]

end ControllerSettings

namespace LevelSettings

def ofDatum? (s : Surplus) : Datum → Option LevelSettings :=
  let base : LevelSettings := {}
  RecordM.run s do
    let speeds ← RecordM.optional "speeds" base.speeds (Datum.listOf? Datum.float?)
    let zones ← RecordM.optional "zones" base.zones (Datum.listOf? Datum.float?)
    return { speeds, zones }

def toFields (l : LevelSettings) : Fields :=
  [("speeds", numberList l.speeds), ("zones", numberList l.zones)]

end LevelSettings

/-- Reads a window whose counts may be left out. -/
def WindowConfig.ofPartial? (s : Surplus) : Datum → Option WindowConfig :=
  let base : WindowConfig := {}
  RecordM.run s do
    let window ← RecordM.optional "window" base.window Datum.word?
    let feedMargin ← RecordM.optional "feed_margin" base.feedMargin Datum.word?
    let retireMargin ← RecordM.optional "retire_margin" base.retireMargin Datum.word?
    return { window, feedMargin, retireMargin }

namespace Settings

def ofDatum? (s : Surplus) : Datum → Option Settings :=
  RecordM.run s do
    let application ← RecordM.optional "application" {} (ApplicationSettings.ofDatum? s)
    let controller ← RecordM.optional "controller" {} (ControllerSettings.ofDatum? s)
    let catalog ← RecordM.optional "catalog" {} (LevelSettings.ofDatum? s)
    let streaming ← RecordM.optional "streaming" {} (WindowConfig.ofPartial? s)
    return { application, controller, catalog, streaming }

/-- The sections with their names. -/
def toSections (s : Settings) : List (String × Fields) :=
  [("application", s.application.toFields), ("controller", s.controller.toFields),
    ("catalog", s.catalog.toFields), ("streaming", s.streaming.toFields)]

end Settings

end RobotCell
