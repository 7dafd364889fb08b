import RobotCell.Exchange.Pose
import RobotCell.Program.Records
import RobotCell.Tracking.Window

/-!
# RobotCell.Exchange.Records

Program records and the set-up of a streaming window as structured data, each a record of its
fields.
-/

namespace RobotCell

namespace ZoneData

def ofDatum? (s : Surplus) : Datum → Option ZoneData :=
  RecordM.run s do
    let finep ← RecordM.required "finep" Datum.bool?
    let pzoneTcp ← RecordM.required "pzone_tcp" Datum.float?
    let pzoneOri ← RecordM.required "pzone_ori" Datum.float?
    let pzoneEax ← RecordM.required "pzone_eax" Datum.float?
    let zoneOri ← RecordM.required "zone_ori" Datum.float?
    let zoneLeax ← RecordM.required "zone_leax" Datum.float?
    let zoneReax ← RecordM.required "zone_reax" Datum.float?
    return { finep, pzoneTcp, pzoneOri, pzoneEax, zoneOri, zoneLeax, zoneReax }

def toDatum (z : ZoneData) : Datum :=
  .table [("finep", .bool z.finep), ("pzone_tcp", .float z.pzoneTcp),
    ("pzone_ori", .float z.pzoneOri), ("pzone_eax", .float z.pzoneEax),
    ("zone_ori", .float z.zoneOri), ("zone_leax", .float z.zoneLeax),
    ("zone_reax", .float z.zoneReax)]

end ZoneData

namespace MotionSettings

def ofDatum? (s : Surplus) : Datum → Option MotionSettings :=
  RecordM.run s do
    let velOride ← RecordM.required "vel_oride" Datum.float?
    let velMax ← RecordM.required "vel_max" Datum.float?
    let accAcc ← RecordM.required "acc_acc" Datum.float?
    let accRamp ← RecordM.required "acc_ramp" Datum.float?
    let singWrist ← RecordM.required "sing_wrist" Datum.bool?
    let singArm ← RecordM.required "sing_arm" Datum.bool?
    let singBase ← RecordM.required "sing_base" Datum.bool?
    let confJsup ← RecordM.required "conf_jsup" Datum.bool?
    let confLsup ← RecordM.required "conf_lsup" Datum.bool?
    let confAx1 ← RecordM.required "conf_ax1" Datum.float?
    let confAx4 ← RecordM.required "conf_ax4" Datum.float?
    let confAx6 ← RecordM.required "conf_ax6" Datum.float?
    let pathresol ← RecordM.required "pathresol" Datum.float?
    let motionsup ← RecordM.required "motionsup" Datum.bool?
    let tunevalue ← RecordM.required "tunevalue" Datum.float?
    let accmax ← RecordM.nullable "accmax" Datum.float?
    let decelmax ← RecordM.nullable "decelmax" Datum.float?
    let cirpathreori ← RecordM.required "cirpathreori" Datum.byte?
    let worldaccmax ← RecordM.nullable "worldaccmax" Datum.float?
    let evtbufferact ← RecordM.required "evtbufferact" Datum.bool?
    return { velOride, velMax, accAcc, accRamp, singWrist, singArm, singBase, confJsup, confLsup,
             confAx1, confAx4, confAx6, pathresol, motionsup, tunevalue, accmax, decelmax,
             cirpathreori, worldaccmax, evtbufferact }

/-- The data of a limit; a disabled one is null. -/
def limitDatum : Option Binary64 → Datum
  | some x => .float x
  | none => .null

def toDatum (m : MotionSettings) : Datum :=
  .table [("vel_oride", .float m.velOride), ("vel_max", .float m.velMax),
    ("acc_acc", .float m.accAcc), ("acc_ramp", .float m.accRamp),
    ("sing_wrist", .bool m.singWrist), ("sing_arm", .bool m.singArm),
    ("sing_base", .bool m.singBase), ("conf_jsup", .bool m.confJsup),
    ("conf_lsup", .bool m.confLsup), ("conf_ax1", .float m.confAx1),
    ("conf_ax4", .float m.confAx4), ("conf_ax6", .float m.confAx6),
    ("pathresol", .float m.pathresol), ("motionsup", .bool m.motionsup),
    ("tunevalue", .float m.tunevalue), ("accmax", limitDatum m.accmax),
    ("decelmax", limitDatum m.decelmax), ("cirpathreori", .integer m.cirpathreori.toNat),
    ("worldaccmax", limitDatum m.worldaccmax), ("evtbufferact", .bool m.evtbufferact)]

end MotionSettings

namespace StopPoint

def ofDatum? (s : Surplus) : Datum → Option StopPoint :=
  RecordM.run s do
    let kind ← RecordM.required "kind" (Datum.choice? StopPointKind.ofName?)
    let progsynch ← RecordM.required "progsynch" Datum.bool?
    let inposPosition ← RecordM.required "inpos_position" Datum.float?
    let inposSpeed ← RecordM.required "inpos_speed" Datum.float?
    let inposMintime ← RecordM.required "inpos_mintime" Datum.float?
    let inposMaxtime ← RecordM.required "inpos_maxtime" Datum.float?
    let stoptime ← RecordM.required "stoptime" Datum.float?
    let followtime ← RecordM.required "followtime" Datum.float?
    return { kind, progsynch, inposPosition, inposSpeed, inposMintime, inposMaxtime, stoptime,
             followtime }

def toDatum (p : StopPoint) : Datum :=
  .table [("kind", .string p.kind.name), ("progsynch", .bool p.progsynch),
    ("inpos_position", .float p.inposPosition), ("inpos_speed", .float p.inposSpeed),
    ("inpos_mintime", .float p.inposMintime), ("inpos_maxtime", .float p.inposMaxtime),
    ("stoptime", .float p.stoptime), ("followtime", .float p.followtime)]

end StopPoint

namespace Frames

def ofDatum? (s : Surplus) : Datum → Option Frames :=
  RecordM.run s do
    let tool ← RecordM.required "tool" Datum.string?
    let wobj ← RecordM.required "wobj" Datum.string?
    return { tool, wobj }

def toDatum (f : Frames) : Datum := .table [("tool", .string f.tool), ("wobj", .string f.wobj)]

end Frames

namespace WindowConfig

def ofDatum? (s : Surplus) : Datum → Option WindowConfig :=
  RecordM.run s do
    let window ← RecordM.required "window" Datum.word?
    let feedMargin ← RecordM.required "feed_margin" Datum.word?
    let retireMargin ← RecordM.required "retire_margin" Datum.word?
    return { window, feedMargin, retireMargin }

/-- The fields of a set-up. -/
def toFields (c : WindowConfig) : Fields :=
  [("window", .integer c.window), ("feed_margin", .integer c.feedMargin),
    ("retire_margin", .integer c.retireMargin)]

def toDatum (c : WindowConfig) : Datum := .table c.toFields

end WindowConfig

end RobotCell
