import RobotCell.Failure
import RobotCell.Number.Word
import RobotCell.Tracking.Channel

/-!
# RobotCell.Tracking.Tracker

A log of cursor positions.

A tracker follows one channel at a time.  While it is attached it appends what it receives to its
log; detaching it records what is still pending and stops.  It stops as well at the end of a
closed channel.
-/

namespace RobotCell

/-! ## The log -/

/-- A recorded position; `seq` is its place in the log. -/
structure PointerSample where
  seq : Nat
  kind : PointerKind
  module : String
  row : Nat
  deriving DecidableEq

/-- Samples in the order of recording. -/
structure PointerLog where
  samples : Array PointerSample := #[]

namespace PointerLog

def append (log : PointerLog) (e : PointerEvent) : PointerLog :=
  ⟨log.samples.push ⟨log.samples.size, e.kind, e.module, e.row⟩⟩

/-- The place where reading from a number starts: a number that is no word counts as the greatest
word, and a place behind the end as the end. -/
def place (log : PointerLog) (start : Nat) : Nat :=
  min ((checkedWord start).toOption.getD (wordLimit - 1)) log.samples.size

/-- The samples from a place on. -/
def since (log : PointerLog) (start : Nat) : List PointerSample :=
  log.samples.toList.drop (log.place start)

/-- The last sample of a kind. -/
def latest? (log : PointerLog) (kind : PointerKind) : Option PointerSample :=
  log.samples.toList.reverse.find? (·.kind = kind)

end PointerLog

/-! ## The tracker -/

/-- A log, and the receiver of the recording that is running. -/
structure Tracker where
  log : PointerLog := {}
  receiver : Option Nat := none

namespace Tracker

def isAttached (t : Tracker) : Bool := t.receiver.isSome

/-- Starts recording from a receiver. -/
def attach (t : Tracker) (receiver : Nat) : Except Failure Tracker :=
  if t.isAttached then
    .error (.wrongState "attach tracker" "detached tracker" "attached")
  else .ok { t with receiver := some receiver }

/-- Receives once: records an event, skips lost ones, and stops when the channel is closed. -/
def poll (c : Channel) (t : Tracker) : Tracker :=
  match t.receiver with
  | none => t
  | some cursor =>
    match c.receive cursor with
    | (.event e, cursor) => ⟨t.log.append e, some cursor⟩
    | (.lagged _, cursor) => { t with receiver := some cursor }
    | (.empty, _) => t
    | (.closed, _) => { t with receiver := none }

/-- Receives a number of times. -/
def polls (c : Channel) : Nat → Tracker → Tracker
  | 0, t => t
  | n + 1, t => polls c n (t.poll c)

/-- Receives everything that waits: at most one skip, the events, and the end. -/
def drain (c : Channel) (t : Tracker) : Tracker :=
  match t.receiver with
  | none => t
  | some cursor => t.polls c (c.sent.size - cursor + 2)

/-- Records what waits and stops. -/
def detach (c : Channel) (t : Tracker) : Tracker := { t.drain c with receiver := none }

end Tracker

end RobotCell
