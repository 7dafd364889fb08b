import RobotCell.Motion.Literal

/-!
# RobotCell.Motion.Catalog

Named levels of speed and zone size.

The controller knows a fixed set of named constants such as `v100` and `z50`.  A `Catalog` holds
such names with their levels, strictly ascending, and snaps a magnitude onto the nearest level:
the scan keeps the first entry of the smallest rounded distance, so of two equally near levels the
lower one is taken.
-/

namespace RobotCell

/-! ## Entries -/

/-- A level and the constant that names it. -/
structure CatalogEntry where
  level : Binary64
  symbol : String
  deriving DecidableEq

/-- A level named by a letter and its number. -/
def CatalogEntry.named (letter : String) (level : Binary64) : CatalogEntry :=
  ⟨level, letter ++ numberText level⟩

/-- The rounded distance between a level and a value. -/
def CatalogEntry.distance (e : CatalogEntry) (value : Binary64) : Binary64 :=
  (e.level - value).abs

/-- Keeps the best entry so far unless the next one is strictly nearer. -/
def nearerEntry (value : Binary64) (best : Option CatalogEntry) (e : CatalogEntry) :
    Option CatalogEntry :=
  match best with
  | some b => if b.distance value ≤ e.distance value then some b else some e
  | none => some e

/-- The first entry at the smallest distance. -/
def nearestEntry? (entries : List CatalogEntry) (value : Binary64) : Option CatalogEntry :=
  entries.foldl (nearerEntry value) none

/-- The symbol of the nearest entry, for any list of entries. -/
def quantize (entries : List CatalogEntry) (value : Binary64) : Except Failure String :=
  if value.isFinite then
    match nearestEntry? entries value with
    | some e => .ok e.symbol
    | none => .error (.invalidCatalog .noLevels)
  else .error (.invalidLevel value)

/-! ## Catalogs -/

/-- Each level is below the next. -/
def strictlyAscending : List CatalogEntry → Bool
  | a :: b :: rest => a.level < b.level && strictlyAscending (b :: rest)
  | _ => true

/-- What is wrong with a list of entries, if anything. -/
def catalogDefect? (entries : List CatalogEntry) : Option CatalogDefect :=
  if entries.isEmpty then some .noLevels
  else
    match entries.find? (fun e => !e.level.isFinite) with
    | some e => some (.notFinite e.symbol)
    | none => if strictlyAscending entries then none else some .notAscending

/-- Entries without a defect: at least one, finite, and strictly ascending. -/
structure Catalog where
  entries : List CatalogEntry
  sound : catalogDefect? entries = none

namespace Catalog

def ofEntries (entries : List CatalogEntry) : Except Failure Catalog :=
  match h : catalogDefect? entries with
  | none => .ok ⟨entries, h⟩
  | some defect => .error (.invalidCatalog defect)

/-- The catalog whose symbols are a letter and the level. -/
def ofLevels (letter : String) (levels : List Binary64) : Except Failure Catalog :=
  ofEntries (levels.map (CatalogEntry.named letter))

def quantize (c : Catalog) (value : Binary64) : Except Failure String :=
  RobotCell.quantize c.entries value

end Catalog

/-! ## Standard levels -/

/-- The predefined speeds of the tool centre point, in mm/s. -/
def standardSpeedLevels : List Binary64 :=
  [5, 10, 20, 30, 40, 50, 60, 80, 100, 150, 200, 300, 400, 500, 600, 800, 1000, 1500, 2000, 2500,
    3000, 4000, 5000, 6000, 7000]

/-- The predefined radii of fly-by zones, in mm. -/
def standardZoneLevels : List Binary64 :=
  [0, 1, 5, 10, 15, 20, 30, 40, 50, 60, 80, 100, 150, 200]

/-- The catalog of predefined speeds, `v5` to `v7000`. -/
def Catalog.standardSpeeds : Catalog where
  entries := standardSpeedLevels.map (CatalogEntry.named "v")
  sound := by decide +kernel

/-- The catalog of predefined zones, `z0` to `z200`. -/
def Catalog.standardZones : Catalog where
  entries := standardZoneLevels.map (CatalogEntry.named "z")
  sound := by decide +kernel

/-! ## Parameters -/

/-- A speed or zone in a call: a magnitude to snap, or a name to use as it is. -/
inductive MotionParameter where
  | level (value : Binary64)
  | symbol (name : String)
  deriving DecidableEq

/-- The symbol that a parameter stands for. -/
def MotionParameter.resolve (c : Catalog) : MotionParameter → Except Failure String
  | .level value => c.quantize value
  | .symbol name => .ok name

end RobotCell
