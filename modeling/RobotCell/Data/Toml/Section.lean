import RobotCell.Data.Datum

/-!
# RobotCell.Data.Toml.Section

The tables of a TOML document while it is read, and the rule that nothing is defined twice.

A table is *implied* by the path of a header below it, made by a *dotted* key, or has a *header*
of its own.  An implied table may get its header later, once; a dotted key may add to the tables
that dotted keys made and to no other.
-/

namespace RobotCell.Toml

/-! ## Tables -/

/-- How a table came to be. -/
inductive Origin where
  | implied
  | dotted
  | header
  deriving DecidableEq

/-- What stands under a key. -/
inductive Section where
  | value (d : Datum)
  | table (origin : Origin) (entries : List (String × Section))
  /-- Tables under a repeated header, the last one first. -/
  | tables (items : List (List (String × Section)))

/-- The keys of a table, in order. -/
abbrev Entries := List (String × Section)

namespace Entries

def get? (entries : Entries) (key : String) : Option Section := List.lookup key entries

/-- The entries with one key set, in its place or at the end. -/
def set (entries : Entries) (key : String) (s : Section) : Entries :=
  match entries with
  | [] => [(key, s)]
  | (k, v) :: rest => if k = key then (k, s) :: rest else (k, v) :: set rest key s

def erase (entries : Entries) (key : String) : Entries := entries.filter (·.1 != key)

end Entries

mutual

/-- The value of a section. -/
def Section.toDatum : Section → Datum
  | .value d => d
  | .table _ entries => .table (entriesToFields entries)
  | .tables items => .list (tablesToList items).reverse

/-- The fields of a table. -/
def entriesToFields : List (String × Section) → List (String × Datum)
  | [] => []
  | (key, s) :: rest => (key, s.toDatum) :: entriesToFields rest

/-- The values of tables. -/
def tablesToList : List (List (String × Section)) → List Datum
  | [] => []
  | t :: rest => .table (entriesToFields t) :: tablesToList rest

end

/-! ## Definitions -/

/-- Changes the table at a path; `origin` tells how the tables on the way that are not there come
to be, and the change is told how the table that it changes did.  A dotted path does not pass a
table with a header. -/
def changeAt (origin : Origin) (change : Origin → Entries → Option Entries) (here : Origin)
    (entries : Entries) : List String → Option Entries
  | [] => change here entries
  | key :: path =>
    match entries.get? key with
    | none =>
      (changeAt origin change origin [] path).map fun t => entries.set key (.table origin t)
    | some (.value _) => none
    | some (.table o t) =>
      if origin = .dotted ∧ o = .header then none
      else (changeAt origin change o t path).map fun t => entries.set key (.table o t)
    | some (.tables []) => none
    | some (.tables (t :: before)) =>
      (changeAt origin change .header t path).map fun t => entries.set key (.tables (t :: before))

/-- Defines a dotted key: the table that it stands in was made by a dotted key as well, unless the
key has one part. -/
def define (path : List String) (key : String) (d : Datum) (entries : Entries) : Option Entries :=
  let add (o : Origin) (t : Entries) : Option Entries :=
    if path ≠ [] ∧ o ≠ .dotted then none
    else
      match t.get? key with
      | some _ => none
      | none => some (t.set key (.value d))
  changeAt .dotted add .header entries path

/-- The table of a header as it is before its keys are read: empty, or with the tables that
headers below it implied. -/
def openTable (path : List String) (key : String) (root : Entries) : Option (Entries × Entries) :=
  let close (t : Entries) : Option Entries :=
    match t.get? key with
    | none => some t
    | some (.table .implied _) => some (t.erase key)
    | _ => none
  let find (t : Entries) : Entries :=
    match t.get? key with
    | some (.table .implied inner) => inner
    | _ => []
  let rec inner (t : Entries) : List String → Entries
    | [] => find t
    | k :: path =>
      match t.get? k with
      | some (.table _ t) => inner t path
      | some (.tables (t :: _)) => inner t path
      | _ => []
  (changeAt .implied (fun _ t => close t) .header root path).map fun r => (r, inner root path)

/-- The root with a finished table at its place. -/
def closeTable (path : List String) (key : String) (table : Entries) (root : Entries) :
    Option Entries :=
  changeAt .implied (fun _ t => some (t.set key (.table .header table))) .header root path

/-- Whether a repeated header may stand at a place. -/
def openItem (path : List String) (key : String) (root : Entries) : Option Entries :=
  let check (t : Entries) : Option Entries :=
    match t.get? key with
    | none => some t
    | some (.tables _) => some t
    | _ => none
  changeAt .implied (fun _ t => check t) .header root path

/-- The root with a finished table after those of the same repeated header. -/
def closeItem (path : List String) (key : String) (table : Entries) (root : Entries) :
    Option Entries :=
  let add (t : Entries) : Option Entries :=
    match t.get? key with
    | none => some (t.set key (.tables [table]))
    | some (.tables items) => some (t.set key (.tables (table :: items)))
    | _ => none
  changeAt .implied (fun _ t => add t) .header root path

end RobotCell.Toml
