import RobotCell.Controller.Transport
import RobotCell.Data.Record

/-!
# RobotCell.Controller.Discovery

The controllers that a scan of the network finds, and their form as structured data.
-/

namespace RobotCell

/-- Whether a controller accepts connections. -/
inductive Availability where
  | available
  | unavailable
  deriving DecidableEq

namespace Availability

def name : Availability → String
  | .available => "Available"
  | .unavailable => "Unavailable"

def ofName? (s : String) : Option Availability :=
  [Availability.available, .unavailable].find? (·.name == s)

end Availability

/-- A controller that was found. -/
structure ControllerInfo where
  name : String
  systemId : Uuid
  availability : Availability
  version : String
  address : String
  /-- Simulated, as opposed to physical hardware. -/
  isVirtual : Bool
  deriving DecidableEq

namespace ControllerInfo

/-- What a session is opened with. -/
def handle (c : ControllerInfo) : ControllerHandle := ⟨c.systemId, c.address, c.name⟩

/-- The physical and the simulated controllers, each in the order of the scan. -/
def partitionByKind (found : List ControllerInfo) : List ControllerInfo × List ControllerInfo :=
  found.partition fun c => !c.isVirtual

def ofDatum? (s : Surplus) : Datum → Option ControllerInfo :=
  RecordM.run s do
    let name ← RecordM.required "name" Datum.string?
    let systemId ← RecordM.required "system_id" fun d => d.string?.bind Uuid.ofString?
    let availability ← RecordM.required "availability" (Datum.choice? Availability.ofName?)
    let version ← RecordM.required "version" Datum.string?
    let address ← RecordM.required "address" Datum.string?
    let isVirtual ← RecordM.required "is_virtual" Datum.bool?
    return { name, systemId, availability, version, address, isVirtual }

def toDatum (c : ControllerInfo) : Datum :=
  .table [("name", .string c.name), ("system_id", .string c.systemId.text),
    ("availability", .string c.availability.name), ("version", .string c.version),
    ("address", .string c.address), ("is_virtual", .bool c.isVirtual)]

end ControllerInfo

end RobotCell
