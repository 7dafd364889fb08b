import RobotCell.Data.Datum
import RobotCell.Number.Word

/-!
# RobotCell.Data.Record

Records and other typed values read from structured data.

A record is a table, whose fields are found by name and whose other fields are passed over, or a
list, whose items are the fields in their order.  A field is required, has a default, or is
nullable.  In a list a required and a nullable field must be there, while the defaults may be left
out at the end.

Sources differ in one point: what a list holds beyond the fields is refused or passed over
(`Surplus`).
-/

namespace RobotCell

/-- What becomes of the items that a list holds beyond those that are read. -/
inductive Surplus where
  | refused
  | ignored
  deriving DecidableEq

/-- Whether the items that are left over are accepted. -/
def Surplus.accepts (s : Surplus) (rest : List Datum) : Bool :=
  match s with
  | .refused => rest.isEmpty
  | .ignored => true

/-- A value or null. -/
def Datum.orNull? (decode : Datum → Option α) (d : Datum) : Option (Option α) :=
  match d with
  | .null => some none
  | d => (decode d).map some

/-! ## Records -/

/-- The fields of a record that is being read. -/
inductive Record where
  | named (fields : Fields)
  | listed (items : List Datum)

/-- The record that a value is; a date has no field that anybody asks for. -/
def Record.ofDatum? : Datum → Option Record
  | .table fields => some (.named fields)
  | .list items => some (.listed items)
  | .date _ => some (.named [])
  | _ => none

/-- Reads fields of a record in their order. -/
abbrev RecordM := StateT Record Option

namespace RecordM

/-- A field that must be there. -/
def required (name : String) (decode : Datum → Option α) : RecordM α := fun r =>
  match r with
  | .named fields => ((fields.get? name).bind decode).map fun a => (a, r)
  | .listed [] => none
  | .listed (d :: rest) => (decode d).map fun a => (a, .listed rest)

/-- A field with a default for when it is left out. -/
def optional (name : String) (default : α) (decode : Datum → Option α) : RecordM α := fun r =>
  match r with
  | .named fields =>
    match fields.get? name with
    | none => some (default, r)
    | some d => (decode d).map fun a => (a, r)
  | .listed [] => some (default, r)
  | .listed (d :: rest) => (decode d).map fun a => (a, .listed rest)

/-- A field that may be null, and that a table may leave out. -/
def nullable (name : String) (decode : Datum → Option α) : RecordM (Option α) := fun r =>
  match r with
  | .named fields =>
    match fields.get? name with
    | none => some (none, r)
    | some d => (d.orNull? decode).map fun a => (a, r)
  | .listed [] => none
  | .listed (d :: rest) => (d.orNull? decode).map fun a => (a, .listed rest)

/-- Reads a whole record. -/
def run (s : Surplus) (body : RecordM α) (d : Datum) : Option α :=
  match (Record.ofDatum? d).bind body with
  | some (a, .named _) => some a
  | some (a, .listed rest) => if s.accepts rest then some a else none
  | none => none

end RecordM

/-! ## Lists and names -/

namespace Datum

/-- The values of a list. -/
def listOf? (decode : Datum → Option α) (d : Datum) : Option (List α) :=
  match d with
  | .list items => items.mapM decode
  | _ => none

/-- The values of a list of a given length. -/
def vectorOf? (s : Surplus) (n : Nat) (decode : Datum → Option α) (d : Datum) :
    Option (Vector α n) :=
  match d with
  | .list items =>
    match (items.take n).mapM decode with
    | some values =>
      if h : values.length = n then
        if s.accepts (items.drop n) then some ⟨values.toArray, h⟩ else none
      else none
    | none => none
  | _ => none

/-- A choice by its name: a string, or a table with the name and nothing. -/
def choice? (ofName? : String → Option α) (d : Datum) : Option α :=
  match d with
  | .string name => ofName? name
  | .table [(name, .null)] => ofName? name
  | _ => none

/-- The name under a tag and the data beside it: a table with the tag among its fields, or a list
that begins with it. -/
def tagged? (tag : String) : Datum → Option (String × Datum)
  | .table fields =>
    match Fields.get? fields tag with
    | some (.string name) => some (name, .table (fields.filter (·.1 != tag)))
    | _ => none
  | .list (.string name :: rest) => some (name, .list rest)
  | _ => none

/-- A 64-bit word. -/
def word? (d : Datum) : Option Nat := d.natBelow? wordLimit

/-- A byte. -/
def byte? (d : Datum) : Option UInt8 := (d.natBelow? 256).map Nat.toUInt8

/-- A 32-bit integer. -/
def int32? (d : Datum) : Option Int32 :=
  match d with
  | .integer i => if -2147483648 ≤ i ∧ i ≤ 2147483647 then some (Int32.ofInt i) else none
  | _ => none

end Datum

end RobotCell
