import RobotCell.Tracking.Pointer

/-!
# RobotCell.Tracking.Channel

A channel that delivers every event to every receiver.

A receiver is the position of the next event that it has not read; it starts behind the events
sent so far.  The channel keeps the last `capacity` events: a receiver that is further behind
skips the lost ones first and is told how many there were.
-/

namespace RobotCell

/-- A channel with everything that was sent into it, oldest first. -/
structure Channel where
  capacity : Nat
  sent : Array PointerEvent := #[]
  closed : Bool := false

/-- The smallest power of two that is not below a number. -/
def ceilPowerOfTwo (n : Nat) : Nat := if n ≤ 1 then 1 else Nat.pow 2 ((n - 1).log2 + 1)

/-- What a receiver finds. -/
inductive Received where
  | event (e : PointerEvent)
  | lagged (skipped : Nat)
  | empty
  | closed
  deriving DecidableEq

namespace Channel

/-- A channel for a number of pending events, rounded up to a power of two. -/
def ofCapacity (n : Nat) : Channel := { capacity := ceilPowerOfTwo n }

def send (c : Channel) (e : PointerEvent) : Channel := { c with sent := c.sent.push e }

/-- The position of a new receiver. -/
def subscribe (c : Channel) : Nat := c.sent.size

/-- The oldest event that is kept. -/
def oldest (c : Channel) : Nat := c.sent.size - c.capacity

/-- Reads once, and moves the receiver on. -/
def receive (c : Channel) (cursor : Nat) : Received × Nat :=
  if cursor < c.oldest then (.lagged (c.oldest - cursor), c.oldest)
  else
    match c.sent[cursor]? with
    | some e => (.event e, cursor + 1)
    | none => (if c.closed then .closed else .empty, cursor)

end Channel

end RobotCell
