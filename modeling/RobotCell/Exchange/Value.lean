import RobotCell.Controller.Value
import RobotCell.Exchange.Pose

/-!
# RobotCell.Exchange.Value

Values of data items as structured data.

A value is a record of its type and its content; loads, tools and work objects are records of
their fields.
-/

namespace RobotCell

/-! ## Records -/

namespace LoadData

def ofDatum? (s : Surplus) : Datum → Option LoadData :=
  RecordM.run s do
    let mass ← RecordM.required "mass" Datum.float?
    let cog ← RecordM.required "cog" (Datum.vectorOf? s 3 Datum.float?)
    let aom ← RecordM.required "aom" (Datum.vectorOf? s 4 Datum.float?)
    let inertia ← RecordM.required "inertia" (Datum.vectorOf? s 3 Datum.float?)
    return { mass, cog, aom, inertia }

def toDatum (l : LoadData) : Datum :=
  .table [("mass", .float l.mass), ("cog", numberList l.cog.toList),
    ("aom", numberList l.aom.toList), ("inertia", numberList l.inertia.toList)]

end LoadData

namespace ToolData

def ofDatum? (s : Surplus) : Datum → Option ToolData :=
  RecordM.run s do
    let robhold ← RecordM.required "robhold" Datum.bool?
    let tframe ← RecordM.required "tframe" (Pose.ofDatum? s)
    let load ← RecordM.required "load" (LoadData.ofDatum? s)
    return { robhold, tframe, load }

def toDatum (t : ToolData) : Datum :=
  .table [("robhold", .bool t.robhold), ("tframe", t.tframe.toDatum), ("load", t.load.toDatum)]

end ToolData

namespace WobjData

def ofDatum? (s : Surplus) : Datum → Option WobjData :=
  RecordM.run s do
    let robhold ← RecordM.required "robhold" Datum.bool?
    let ufprog ← RecordM.required "ufprog" Datum.bool?
    let ufmec ← RecordM.required "ufmec" Datum.string?
    let uframe ← RecordM.required "uframe" (Pose.ofDatum? s)
    let oframe ← RecordM.required "oframe" (Pose.ofDatum? s)
    return { robhold, ufprog, ufmec, uframe, oframe }

def toDatum (w : WobjData) : Datum :=
  .table [("robhold", .bool w.robhold), ("ufprog", .bool w.ufprog), ("ufmec", .string w.ufmec),
    ("uframe", w.uframe.toDatum), ("oframe", w.oframe.toDatum)]

end WobjData

/-! ## Values -/

namespace DataValue

/-- The content of a value by the name of its type. -/
def ofContent? (s : Surplus) (type : String) (d : Datum) : Option DataValue :=
  match type with
  | "robtarget" => (Pose.ofDatum? s d).map .robtarget
  | "jointtarget" => (JointPose.ofDatum? s d).map .jointtarget
  | "tooldata" => (ToolData.ofDatum? s d).map .tooldata
  | "wobjdata" => (WobjData.ofDatum? s d).map .wobjdata
  | "num" => d.float?.map .num
  | "bool" => d.bool?.map .bool
  | "str" => d.string?.map .string
  | _ => none

def ofDatum? (s : Surplus) (d : Datum) : Option DataValue := do
  let (type, content) ← RecordM.run s (do
    let type ← RecordM.required "type" (Datum.choice? some)
    let content ← RecordM.required "value" some
    return (type, content)) d
  ofContent? s type content

/-- The name of a type in structured data. -/
def typeName : DataValue → String
  | .string _ => "str"
  | v => v.dataType

def content : DataValue → Datum
  | .robtarget p => p.toDatum
  | .jointtarget p => p.toDatum
  | .tooldata t => t.toDatum
  | .wobjdata w => w.toDatum
  | .num x => .float x
  | .bool b => .bool b
  | .string s => .string s

def toDatum (v : DataValue) : Datum := .table [("type", .string v.typeName), ("value", v.content)]

end DataValue

end RobotCell
