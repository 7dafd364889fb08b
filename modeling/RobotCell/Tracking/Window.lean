import RobotCell.Failure
import RobotCell.Number.Word
import RobotCell.Tracking.Pointer

/-!
# RobotCell.Tracking.Window

Streaming of a long target list through a ring of slots.

Slot `s` belongs to row `baseRow + s` of a routine that runs through the slots in a loop, so that
target `i` is in slot `i % window` and is executed at position `i`.  The row of a pointer tells its
position up to whole laps; a lap is counted whenever the row jumps back.

* A target is *retired* when the program pointer is `retireMargin` positions past it.
* The next target is *fed* into the slot of a retired one when the motion pointer is `feedMargin`
  positions past that.

Rows and counters are 64-bit words; a position that is no word is an overflow.
-/

namespace RobotCell

/-! ## Set-up -/

/-- The number of slots and the leads of the two pointers. -/
structure WindowConfig where
  window : Nat := 8
  feedMargin : Nat := 2
  retireMargin : Nat := 1
  deriving DecidableEq

namespace WindowConfig

/-- What is wrong with a configuration, if anything. -/
def defect? (c : WindowConfig) : Option WindowDefect :=
  if c.window = 0 then some .noSlot
  else if c.window ≤ c.feedMargin then some (.feedMargin c.feedMargin c.window)
  else if c.feedMargin < c.retireMargin then some (.retireMargin c.retireMargin c.feedMargin)
  else none

/-- There is a slot, and the margins fit the window: retire, feed, window in ascending order. -/
def validate (c : WindowConfig) : Except Failure Unit :=
  match c.defect? with
  | some defect => .error (.window defect)
  | none => .ok ()

theorem defect?_eq_none_iff {c : WindowConfig} :
    c.defect? = none ↔
      0 < c.window ∧ c.feedMargin < c.window ∧ c.retireMargin ≤ c.feedMargin := by
  unfold defect?
  repeat' split
  all_goals simp_all
  all_goals omega

end WindowConfig

/-- What to do to the controller. -/
inductive StreamAction where
  | feed (slot target : Nat)
  | retire (slot target : Nat)
  deriving DecidableEq

/-! ## Positions -/

/-- The last offset of a pointer in the ring, and the laps it has made. -/
structure Unwrapper where
  last : Option Nat := none
  laps : Nat := 0
  deriving DecidableEq

/-- Whether a pointer jumps back to an offset. -/
def Unwrapper.wraps (u : Unwrapper) (offset : Nat) : Bool :=
  match u.last with
  | some last => offset < last
  | none => false

/-- The pointer at a new offset, and its position: a jump back is one lap more. -/
def Unwrapper.advance (u : Unwrapper) (window offset : Nat) :
    Except Overflow (Unwrapper × Nat) := do
  let laps ← if u.wraps offset then checkedAdd u.laps 1 else .ok u.laps
  let position ← checkedAdd (← checkedMul laps window) offset
  return (⟨some offset, laps⟩, position)

/-! ## The window -/

/-- The streaming state of one target list. -/
structure StreamingWindow where
  config : WindowConfig
  baseRow : Nat
  total : Nat
  /-- The targets fed so far, which is the next target to feed. -/
  fed : Nat := 0
  /-- The targets retired so far, which is the next target to retire. -/
  retired : Nat := 0
  program : Unwrapper := {}
  motion : Unwrapper := {}
  deriving DecidableEq

namespace StreamingWindow

/-- A window for a number of targets. -/
def ofConfig (config : WindowConfig) (baseRow total : Nat) : Except Failure StreamingWindow :=
  match config.validate with
  | .error e => .error e
  | .ok () => .ok { config, baseRow, total }

/-- Every target has been retired. -/
def isComplete (w : StreamingWindow) : Bool := w.retired = w.total

/-- A window and the actions that led to it. -/
abbrev Step := StreamingWindow × List StreamAction

/-- Feeds the next target. -/
def feed (w : StreamingWindow) : Except Overflow (StreamingWindow × StreamAction) := do
  let fed ← checkedAdd w.fed 1
  let slot ← checkedMod w.fed w.config.window
  return ({ w with fed }, .feed slot w.fed)

/-- Retires the next target. -/
def retire (w : StreamingWindow) : Except Overflow (StreamingWindow × StreamAction) := do
  let retired ← checkedAdd w.retired 1
  let slot ← checkedMod w.retired w.config.window
  return ({ w with retired }, .retire slot w.retired)

/-- Repeats an action while it is due, at most as often as the first argument says. -/
def repeatWhile (due : StreamingWindow → Except Overflow Bool)
    (act : StreamingWindow → Except Overflow (StreamingWindow × StreamAction)) :
    Nat → StreamingWindow → Except Overflow Step
  | 0, w => .ok (w, [])
  | bound + 1, w => do
    if ← due w then
      let (w, action) ← act w
      let (w, actions) ← repeatWhile due act bound w
      return (w, action :: actions)
    else return (w, [])

/-- The ring has a slot that was never filled, and there is a target for it. -/
def primeDue (w : StreamingWindow) : Except Overflow Bool :=
  .ok (decide (w.fed < min w.total w.config.window))

/-- Fills the ring. -/
def prime (w : StreamingWindow) : Except Overflow Step :=
  repeatWhile primeDue feed (min w.total w.config.window - w.fed) w

/-- The program pointer is far enough past the oldest target that is not retired. -/
def retireDue (position : Nat) (w : StreamingWindow) : Except Overflow Bool :=
  if w.retired < w.fed then do
    return decide ((← checkedAdd w.retired w.config.retireMargin) ≤ position)
  else .ok false

/-- The motion pointer is far enough past the retired target whose slot comes next. -/
def feedDue (position : Nat) (w : StreamingWindow) : Except Overflow Bool :=
  if w.fed < w.total ∧ w.config.window ≤ w.fed then do
    let before ← checkedSub w.fed w.config.window
    if before < w.retired then
      return decide ((← checkedAdd before w.config.feedMargin) ≤ position)
    else return false
  else .ok false

/-- The place of a row in the ring. -/
def offset? (w : StreamingWindow) (row : Nat) : Option Nat :=
  if w.baseRow ≤ row ∧ row - w.baseRow < w.config.window then some (row - w.baseRow) else none

/-- Takes a pointer observation; a row outside the ring is passed over. -/
def observe (w : StreamingWindow) (kind : PointerKind) (row : Nat) : Except Overflow Step :=
  match w.offset? row with
  | none => .ok (w, [])
  | some offset =>
    match kind with
    | .program => do
      let (program, position) ← w.program.advance w.config.window offset
      repeatWhile (retireDue position) retire (w.fed - w.retired) { w with program }
    | .motion => do
      let (motion, position) ← w.motion.advance w.config.window offset
      repeatWhile (feedDue position) feed (w.total - w.fed) { w with motion }

end StreamingWindow

end RobotCell
