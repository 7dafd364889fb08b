import RobotCell.Controller.Transport
import RobotCell.Files
import RobotCell.Tracking.Tracker

/-!
# RobotCell.Controller.Session

One client of one controller task.

```
disconnected --logon--> loggedOn --mastership scope--> mastershipHeld
     ^                   |   ^                              |
     +------ logoff -----+   +--------- scope exit ---------+
```

Mastership is held inside `withMastership` only, which releases it on every way out, and every
operation that changes the controller checks that the session is inside such a scope before it
calls.  `withLogon` does the same for the logon itself.

Operations run in any monad that conducts calls.  A failing operation leaves the session in the
state that it reached.
-/

namespace RobotCell

/-! ## State -/

/-- Where a session is in its life. -/
inductive SessionState where
  | disconnected
  | loggedOn
  | mastershipHeld
  deriving DecidableEq

def SessionState.name : SessionState → String
  | .disconnected => "Disconnected"
  | .loggedOn => "LoggedOn"
  | .mastershipHeld => "MastershipHeld"

/-- A session: its credentials and task, its state, and the controller it is logged on to. -/
structure Session where
  user : Credentials := {}
  task : String := "T_ROB1"
  state : SessionState := .disconnected
  handle : Option ControllerHandle := none

/-- An operation of a session that conducts calls in `m`. -/
abbrev SessionM (m : Type → Type) := ExceptT Failure (StateT Session m)

namespace Session

variable {m : Type → Type} [Monad m] [Transport m] {α : Type}

/-- Fails without a call. -/
def refuse (e : Failure) : SessionM m α := fun s => pure (.error e, s)

/-- Conducts a call and leaves the session as it is. -/
def conduct (c : Call) : SessionM m c.Answer := fun s => do
  return (← Transport.call c, s)

/-- An operation for one state. -/
def inState (operation : String) (wanted : SessionState) (body : SessionM m α) : SessionM m α :=
  fun s =>
    if s.state = wanted then body s
    else refuse (.wrongState operation wanted.name s.state.name) s

/-- An operation for every state with a logon. -/
def connected (operation : String) (body : SessionM m α) : SessionM m α := fun s =>
  match s.state with
  | .disconnected =>
    refuse (.wrongState operation SessionState.loggedOn.name SessionState.disconnected.name) s
  | _ => body s

/-! ## Scopes -/

/-- Logs on to a controller. -/
def logon (handle : ControllerHandle) : SessionM m Unit :=
  inState "logon" .disconnected fun s => do
    match ← Transport.call (.logon handle s.user) with
    | .error e => return (.error e, s)
    | .ok _ => return (.ok (), { s with state := .loggedOn, handle := some handle })

/-- The session after it has ended, whatever the calls answered. -/
def ended (s : Session) : Session := { s with state := .disconnected, handle := none }

/-- Logs off, giving up a held mastership first; failures are dropped. -/
def logoff : SessionM m Unit := fun s => do
  match s.state with
  | .disconnected => return (.ok (), s)
  | .loggedOn =>
    let _ ← Transport.call .logoff
    return (.ok (), s.ended)
  | .mastershipHeld =>
    let _ ← Transport.call .releaseMastership
    let _ ← Transport.call .logoff
    return (.ok (), s.ended)

/-- Runs a body while logged on, and logs off on every way out. -/
def withLogon (handle : ControllerHandle) (body : SessionM m α) : SessionM m α := fun s => do
  match ← logon handle s with
  | (.error e, s) => return (.error e, s)
  | (.ok _, s) =>
    let (result, s) ← body s
    let (_, s) ← logoff s
    return (result, s)

/-- The result of a scope: a failure of the body comes before one of the release. -/
def scopeResult (result : Except Failure α) (released : Except Failure Unit) :
    Except Failure α :=
  match result, released with
  | .error e, _ => .error e
  | .ok _, .error e => .error e
  | .ok a, .ok _ => .ok a

/-- Runs a body while holding mastership, and releases it on every way out. -/
def withMastership (body : SessionM m α) : SessionM m α :=
  inState "acquire mastership" .loggedOn fun s => do
    match ← Transport.call .requestMastership with
    | .error e => return (.error e, s)
    | .ok _ =>
      let (result, s) ← body { s with state := .mastershipHeld }
      let released ← Transport.call .releaseMastership
      return (scopeResult result released, { s with state := .loggedOn })

/-! ## Programs -/

/-- The operating mode of the controller. -/
def operatingMode : SessionM m OperatingMode :=
  connected "operating mode" (conduct .operatingMode)

/-- Copies a local file to the controller under its own name.  The file is checked before the
state of the session. -/
def transfer (files : Files) (operation path : String) : SessionM m String :=
  match files.require path with
  | .error e => refuse e
  | .ok () =>
    inState operation .mastershipHeld
      (match fileName? path with
      | none => refuse (.fileNotFound path)
      | some remote => do
        conduct (.putFile path remote true)
        return remote)

/-- Copies a module to the controller and loads it. -/
def uploadModule (files : Files) (path : String) (mode : LoadMode) : SessionM m Unit := do
  let remote ← transfer files "upload module" path
  conduct (.loadModule (← get).task remote mode)

/-- Copies a program descriptor to the controller and loads it in place of the program. -/
def uploadProgram (files : Files) (path : String) : SessionM m Unit := do
  let remote ← transfer files "upload program" path
  conduct (.loadProgram (← get).task remote .replace)

/-- Starts execution at the entry routine; only in automatic mode. -/
def startExecution : SessionM m Unit :=
  inState "start execution" .mastershipHeld do
    let mode ← conduct .operatingMode
    if mode ≠ .auto then refuse (.wrongMode mode)
    conduct (.resetProgramPointer (← get).task)
    conduct .start

/-! ## Data -/

/-- The declared item of a name. -/
def lookup (module name : String) : SessionM m DataItem := do
  match ← conduct (.getData (← get).task module name) with
  | some item => return item
  | none => refuse (.symbolNotFound module name)

/-- Writes a value into an item whose declared type it fits. -/
def writeValue (module name : String) (value : DataValue) : SessionM m Unit :=
  inState "write named value" .mastershipHeld do
    let item ← lookup module name
    if !value.fits item.dataType then
      refuse (.typeMismatch name item.dataType value.dataType)
    conduct (.setData (← get).task module name value.literal)

/-- Writes a value given as a literal; its kind is inferred from the text. -/
def writeText (module name text : String) : SessionM m Unit :=
  match DataValue.parse text with
  | .error e => refuse e
  | .ok value => writeValue module name value

/-- Reads the value of an item as its declared type. -/
def readValue (module name : String) : SessionM m DataValue :=
  connected "read named value" do
    let item ← lookup module name
    match DataValue.parseAs item.dataType item.value with
    | .error e => refuse e
    | .ok value => return value

/-- The items declared in a module. -/
def searchData (module : String) : SessionM m (List DataItem) :=
  connected "search data" do
    conduct (.searchData (← get).task module)

/-! ## Pointer and position -/

/-- Moves the program pointer to a row of a module. -/
def setProgramPointer (module : String) (row : Nat) : SessionM m Unit :=
  inState "set program pointer" .mastershipHeld do
    conduct (.setProgramPointer (← get).task module row)

def programPointer : SessionM m (Option ProgramPosition) :=
  connected "program pointer" do
    conduct (.programPointer (← get).task)

/-- The pose and the joint angles of the robot. -/
def currentPosition : SessionM m (Pose × JointPose) :=
  connected "current position" do
    let pose ← conduct (.currentRobtarget (← get).task)
    let joints ← conduct (.currentJointtarget (← get).task)
    return (pose, joints)

/-- The right to follow pointer changes. -/
def subscribe : SessionM m Unit := connected "subscribe pointers" (pure ())

/-- Attaches a tracker to the channel that reports pointer changes. -/
def attach (channel : Channel) (t : Tracker) : SessionM m Tracker := do
  subscribe
  match t.attach channel.subscribe with
  | .error e => refuse e
  | .ok t => return t

end Session

end RobotCell
