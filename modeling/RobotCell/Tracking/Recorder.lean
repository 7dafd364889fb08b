import RobotCell.Tracking.Tracker

/-!
# RobotCell.Tracking.Recorder

A tracker with the tasks that record for it.

Every attachment has a task of its own, which receives events and appends them to the log of the
tracker, one after the other.  Whoever keeps the handle of the task signals its end by detaching or
by dropping the handle; the task then records what still waits, and clears the flag of the tracker
as the last thing it does.  Events are sent, tasks take their turns and handles are given up in any
order: a run is a list of moves, and a move that is not possible where it stands does nothing.
-/

namespace RobotCell

/-! ## Tasks -/

/-- How far a task is. -/
inductive TaskPhase where
  | recording
  /-- It has noticed that its end was signalled, and records what still waits. -/
  | draining
  /-- It has left its loop. -/
  | leaving
  | ended
  deriving DecidableEq

/-- What has become of the handle of a task. -/
inductive HandleState where
  | kept
  /-- A detach has signalled the end, and waits until the task has ended. -/
  | detaching
  /-- The detach has returned. -/
  | detached
  | dropped
  deriving DecidableEq

/-- A task that records from a receiver of a channel. -/
structure RecordingTask where
  channel : Nat
  /-- The position where its receiver started. -/
  start : Nat
  cursor : Nat
  phase : TaskPhase := .recording
  handle : HandleState := .kept
  /-- What is received and not yet recorded. -/
  held : Option PointerEvent := none
  /-- What the receiver has found so far. -/
  reports : List Received := []
  /-- What was appended to the log so far. -/
  recorded : List PointerEvent := []
  deriving DecidableEq

/-- A turn of a task, or of who keeps its handle. -/
inductive TaskMove where
  | receive
  | record
  /-- Notices that the end was signalled. -/
  | heed
  | finish
  | detach
  /-- The detach returns. -/
  | join
  | drop
  deriving DecidableEq

/-- What a turn does to the tracker. -/
inductive TaskEffect where
  | none
  | append (e : PointerEvent)
  | release
  deriving DecidableEq

namespace RecordingTask

/-- A task that begins with a receiver at a position of a channel. -/
def begin (channel position : Nat) : RecordingTask :=
  { channel, start := position, cursor := position }

/-- The task is in its loop. -/
def isLive (t : RecordingTask) : Bool := t.phase = .recording || t.phase = .draining

/-- The task has not ended. -/
def isActive (t : RecordingTask) : Bool := t.phase ≠ .ended

/-- The end is signalled once the handle is not kept any more. -/
def isSignalled (t : RecordingTask) : Bool := t.handle ≠ .kept

/-- The task after its receiver has found something. -/
def found (t : RecordingTask) (r : Received) (cursor : Nat) : RecordingTask :=
  { t with cursor, reports := t.reports ++ [r] }

/-- Receives once.  An empty channel is waited for, unless the task is draining. -/
def receive (c : Channel) (t : RecordingTask) : Option RecordingTask :=
  match c.receive t.cursor with
  | (.event e, cursor) => some { t.found (.event e) cursor with held := some e }
  | (.lagged skipped, cursor) => some (t.found (.lagged skipped) cursor)
  | (.closed, cursor) => some { t.found .closed cursor with phase := .leaving }
  | (.empty, cursor) =>
    if t.phase = .draining then some { t.found .empty cursor with phase := .leaving } else none

/-- The task after a turn, if the turn is possible, and what it does to the tracker. -/
def move (c : Channel) (t : RecordingTask) : TaskMove → Option (RecordingTask × TaskEffect)
  | .receive =>
    if t.isLive && t.held.isNone then (t.receive c).map fun t => (t, .none) else none
  | .record =>
    t.held.map fun e => ({ t with held := none, recorded := t.recorded ++ [e] }, .append e)
  | .heed =>
    if t.phase = .recording ∧ t.held = none ∧ t.isSignalled then
      some ({ t with phase := .draining }, .none)
    else none
  | .finish => if t.phase = .leaving then some ({ t with phase := .ended }, .release) else none
  | .detach => if t.handle = .kept then some ({ t with handle := .detaching }, .none) else none
  | .join =>
    if t.handle = .detaching ∧ t.phase = .ended then some ({ t with handle := .detached }, .none)
    else none
  | .drop =>
    if t.handle = .kept ∨ t.handle = .detaching then some ({ t with handle := .dropped }, .none)
    else none

end RecordingTask

/-! ## The tracker -/

/-- A tracker, the tasks of its attachments in their order, and the channels. -/
structure Recorder where
  channels : Nat → Channel
  log : PointerLog := {}
  attached : Bool := false
  tasks : List RecordingTask := []

/-- One step of whoever takes part. -/
inductive RecorderMove where
  | send (channel : Nat) (e : PointerEvent)
  | close (channel : Nat)
  /-- Attaches a receiver of a channel, which stands at a position. -/
  | attach (channel position : Nat)
  | task (index : Nat) (move : TaskMove)
  deriving DecidableEq

namespace Recorder

/-- A recorder without attachments. -/
def new (channels : Nat → Channel) : Recorder := { channels }

/-- The recorder with one channel changed. -/
def onChannel (s : Recorder) (k : Nat) (f : Channel → Channel) : Recorder :=
  { s with channels := fun other => if other = k then f (s.channels k) else s.channels other }

/-- Attaches a receiver: there is one more task, unless one is attached. -/
def attach (s : Recorder) (channel position : Nat) : Except Failure Recorder :=
  if s.attached then .error (.wrongState "attach tracker" "detached tracker" "attached")
  else .ok { s with attached := true, tasks := s.tasks ++ [.begin channel position] }

/-- What a turn of a task does to the tracker. -/
def apply (s : Recorder) : TaskEffect → Recorder
  | .none => s
  | .append e => { s with log := s.log.append e }
  | .release => { s with attached := false }

/-- A turn of one of the tasks. -/
def moveTask (s : Recorder) (i : Nat) (m : TaskMove) : Recorder :=
  match s.tasks[i]? with
  | none => s
  | some t =>
    match t.move (s.channels t.channel) m with
    | none => s
    | some (t, effect) => { s.apply effect with tasks := s.tasks.set i t }

/-- The recorder after a move.  Nothing is sent into a closed channel, and a receiver stands at no
position that is not reached. -/
def step (s : Recorder) : RecorderMove → Recorder
  | .send k e => if (s.channels k).closed then s else s.onChannel k (·.send e)
  | .close k => s.onChannel k fun c => { c with closed := true }
  | .attach k position =>
    if position ≤ (s.channels k).sent.size then
      match s.attach k position with
      | .error _ => s
      | .ok s => s
    else s
  | .task i m => s.moveTask i m

/-- The recorder after moves in turn. -/
def after (s : Recorder) (moves : List RecorderMove) : Recorder := moves.foldl step s

/-- The tracker as it looks between the turns of its tasks. -/
def tracker (s : Recorder) : Tracker where
  log := s.log
  receiver := if s.attached then s.tasks.getLast?.map (·.cursor) else none

end Recorder

end RobotCell
