import RobotCell.Data.Datum

/-!
# RobotCell.Data.Overlay

Structured data laid over other data.

Tables are joined field by field; of everything else the upper value counts.
-/

namespace RobotCell

namespace Datum

/-- The fields that an upper table is joined with; a date has none that anybody asks for. -/
def openFields? : Datum → Option Fields
  | .table fields => some fields
  | .date _ => some []
  | _ => none

end Datum

mutual

/-- A value over another. -/
def Datum.over (lower : Datum) : Datum → Datum
  | .table fields =>
    match lower.openFields? with
    | some below => .table (Fields.over below fields)
    | none => .table fields
  | upper => upper

/-- The fields of a table over those of another. -/
def Fields.over (below : Fields) : List (String × Datum) → Fields
  | [] => below
  | (name, d) :: rest =>
    let value := match below.get? name with
      | some lower => lower.over d
      | none => d
    Fields.over (below.set name value) rest

end

/-- A value under the names that lead to it. -/
def Datum.atPath (path : List String) (d : Datum) : Datum :=
  path.foldr (fun name d => .table [(name, d)]) d

end RobotCell
