import RobotCell.Controller.ModuleScan
import RobotCell.Files
import RobotCell.Tracking.Pointer

/-!
# RobotCell.Controller.Simulator

A controller in memory.

It keeps stored files, loaded modules with their data, a program pointer and a mastership that one
client at a time may hold, and it refuses what a controller refuses: everything before a logon,
and every change without mastership.  Three settings make it fail on purpose: it can be
unreachable, reject the next load, and fail the next release of mastership.  They are made from
outside (`Simulator.adjust`), past the calls.
-/

namespace RobotCell

/-- The state of a simulated controller, by default ready and empty. -/
structure Simulator where
  reachable : Bool := true
  credentials : Credentials := {}
  mode : OperatingMode := .auto
  rejectNextLoad : Option String := none
  failNextRelease : Bool := false
  loggedOn : Bool := false
  mastership : Bool := false
  /-- How often mastership was granted. -/
  grants : Nat := 0
  /-- Stored files, by name. -/
  files : List (String × String) := []
  program : Option String := none
  /-- Loaded modules, in load order. -/
  modules : List LoadedModule := []
  pointer : Option ProgramPosition := none
  running : Bool := false
  robtarget : Pose := { position := #v[600, 0, 800], orientation := #v[0, 0, 1, 0] }
  jointtarget : JointPose := { joints := #v[0, 0, 0, 0, 30, 0] }

namespace Simulator

/-! ## Views -/

/-- The content of a stored file. -/
def storedFile? (s : Simulator) (name : String) : Option String := List.lookup name s.files

/-- The first loaded module of a name. -/
def module? (s : Simulator) (name : String) : Option LoadedModule :=
  s.modules.find? (·.name == name)

/-- The first data item of a name in a module. -/
def item? (s : Simulator) (module name : String) : Option DataItem :=
  (s.module? module).bind (·.item? name)

/-! ## Guards -/

def requireLoggedOn (s : Simulator) : Except Failure Unit :=
  if s.loggedOn then .ok () else .error (.session .notLoggedOn)

def requireMastership (s : Simulator) (operation : String) : Except Failure Unit :=
  match s.requireLoggedOn with
  | .error e => .error e
  | .ok () => if s.mastership then .ok () else .error (.refused (.needsMastership operation))

/-- Answers from the state when somebody is logged on. -/
def reading (s : Simulator) (answer : α) : Except Failure α × Simulator :=
  (s.requireLoggedOn.map fun _ => answer, s)

/-- Goes on when mastership is held. -/
def writing (s : Simulator) (operation : String)
    (next : Except Failure Unit × Simulator) : Except Failure Unit × Simulator :=
  match s.requireMastership operation with
  | .error e => (.error e, s)
  | .ok () => next

/-! ## Changes -/

/-- The stored files with one written: in its place, or after the others. -/
def storeFile (files : List (String × String)) (name content : String) :
    List (String × String) :=
  if (List.lookup name files).isSome then
    files.map fun entry => if entry.1 == name then (name, content) else entry
  else files ++ [(name, content)]

/-- The modules with the first of a name changed. -/
def updateModule (modules : List LoadedModule) (name : String)
    (f : LoadedModule → LoadedModule) : List LoadedModule :=
  match modules with
  | [] => []
  | m :: rest => if m.name == name then f m :: rest else m :: updateModule rest name f

/-- The items with the value of the first of a name changed. -/
def updateItem (items : List DataItem) (name value : String) : List DataItem :=
  match items with
  | [] => []
  | d :: rest =>
    if d.name == name then { d with value } :: rest else d :: updateItem rest name value

/-- A load that was announced as rejected; the announcement is used up. -/
def takeRejection (s : Simulator) (remote : String) : Option (Except Failure Unit × Simulator) :=
  s.rejectNextLoad.map fun reason =>
    (.error (.loadRejected remote (.other reason)), { s with rejectNextLoad := none })

/-- Loads a module from a stored file. -/
def loadModule (s : Simulator) (remote : String) (mode : LoadMode) :
    Except Failure Unit × Simulator :=
  match s.takeRejection remote with
  | some rejected => rejected
  | none =>
    match s.storedFile? remote with
    | none => (.error (.refused (.noFile remote)), s)
    | some text =>
      match LoadedModule.scan text with
      | .error defect => (.error (.loadRejected remote defect), s)
      | .ok m =>
        match s.module? m.name, mode with
        | some _, .add => (.error (.loadRejected remote (.alreadyLoaded m.name)), s)
        | some _, .replace =>
          (.ok (), { s with modules := updateModule s.modules m.name fun _ => m })
        | none, _ => (.ok (), { s with modules := s.modules ++ [m] })

/-- Loads a program descriptor; in place of existing content it also unloads the modules. -/
def loadProgram (s : Simulator) (remote : String) (mode : LoadMode) :
    Except Failure Unit × Simulator :=
  match s.takeRejection remote with
  | some rejected => rejected
  | none =>
    match s.storedFile? remote with
    | none => (.error (.refused (.noFile remote)), s)
    | some _ =>
      match mode with
      | .add => (.ok (), { s with program := some remote })
      | .replace => (.ok (), { s with program := some remote, modules := [], pointer := none })

def logon (s : Simulator) (handle : ControllerHandle) (user : Credentials) :
    Except Failure Unit × Simulator :=
  if !s.reachable then (.error (.session (.unreachable handle.text)), s)
  else if user ≠ s.credentials then (.error (.session (.credentials user.name)), s)
  else (.ok (), { s with loggedOn := true })

def requestMastership (s : Simulator) : Except Failure Unit × Simulator :=
  match s.requireLoggedOn with
  | .error e => (.error e, s)
  | .ok () =>
    if s.mastership then (.error (.refused .mastershipHeld), s)
    else (.ok (), { s with mastership := true, grants := s.grants + 1 })

/-- Mastership is dropped even when the release is announced to fail. -/
def releaseMastership (s : Simulator) : Except Failure Unit × Simulator :=
  if s.failNextRelease then
    (.error (.refused .releaseTimedOut), { s with mastership := false, failNextRelease := false })
  else (.ok (), { s with mastership := false })

/-- Stores a local file; the file is read before the logon is checked. -/
def putFile (s : Simulator) (content : Except Failure String) (remote : String)
    (overwrite : Bool) : Except Failure Unit × Simulator :=
  match content with
  | .error e => (.error e, s)
  | .ok text =>
    match s.requireLoggedOn with
    | .error e => (.error e, s)
    | .ok () =>
      if !overwrite && (s.storedFile? remote).isSome then
        (.error (.refused (.fileExists remote)), s)
      else (.ok (), { s with files := storeFile s.files remote text })

def setData (s : Simulator) (module name value : String) : Except Failure Unit × Simulator :=
  match s.item? module name with
  | none => (.error (.symbolNotFound module name), s)
  | some _ =>
    (.ok (), { s with
      modules := updateModule s.modules module fun m =>
        { m with items := updateItem m.items name value } })

/-- The routine that the pointer is moved to by row. -/
def pointerRoutine : String := "rStart"

def setProgramPointer (s : Simulator) (module : String) (row : Nat) :
    Except Failure Unit × Simulator :=
  match s.module? module with
  | none => (.error (.refused (.moduleNotLoaded module)), s)
  | some _ => (.ok (), { s with pointer := some ⟨module, pointerRoutine, row⟩ })

def resetProgramPointer (s : Simulator) : Except Failure Unit × Simulator :=
  match s.modules with
  | [] => (.error (.refused .noModuleLoaded), s)
  | m :: _ => (.ok (), { s with pointer := some ⟨m.name, "main", 0⟩ })

def start (s : Simulator) : Except Failure Unit × Simulator :=
  if s.mode = .auto then (.ok (), { s with running := true }) else (.error (.wrongMode s.mode), s)

/-- Answers a call; files to store are read from the local tree. -/
def respond (workspace : Files) (c : Call) (s : Simulator) : Except Failure c.Answer × Simulator :=
  match c with
  | .logon handle user => s.logon handle user
  | .logoff => (.ok (), { s with loggedOn := false, mastership := false })
  | .requestMastership => s.requestMastership
  | .releaseMastership => s.releaseMastership
  | .operatingMode => s.reading s.mode
  | .putFile path remote overwrite => s.putFile (workspace.readAny path) remote overwrite
  | .loadProgram _ remote mode => s.writing "load program" (s.loadProgram remote mode)
  | .loadModule _ remote mode => s.writing "load module" (s.loadModule remote mode)
  | .getData _ module name => s.reading (s.item? module name)
  | .setData _ module name value => s.writing "write data" (s.setData module name value)
  | .searchData _ module =>
    s.reading (match s.module? module with
      | some m => m.items
      | none => [])
  | .programPointer _ => s.reading s.pointer
  | .setProgramPointer _ module row =>
    s.writing "set program pointer" (s.setProgramPointer module row)
  | .resetProgramPointer _ => s.writing "reset program pointer" s.resetProgramPointer
  | .start => s.writing "start" s.start
  | .currentRobtarget _ => s.reading s.robtarget
  | .currentJointtarget _ => s.reading s.jointtarget

/-- The program pointer moves to a row, as when the program runs. -/
def movePointer (s : Simulator) (module : String) (row : Nat) : Simulator :=
  { s with pointer := some ⟨module, pointerRoutine, row⟩ }

/-! ## Adjustments -/

/-- What is done to a simulator beside calling it. -/
inductive Adjustment where
  | reachable (value : Bool)
  | credentials (user : Credentials)
  | mode (value : OperatingMode)
  | rejectNextLoad (reason : String)
  | failNextRelease
  | position (pose : Pose) (joints : JointPose)
  /-- A cursor has moved; the pointer follows the one of the program. -/
  | emit (kind : PointerKind) (module : String) (row : Nat)

def adjust (s : Simulator) : Adjustment → Simulator
  | .reachable value => { s with reachable := value }
  | .credentials user => { s with credentials := user }
  | .mode value => { s with mode := value }
  | .rejectNextLoad reason => { s with rejectNextLoad := some reason }
  | .failNextRelease => { s with failNextRelease := true }
  | .position pose joints => { s with robtarget := pose, jointtarget := joints }
  | .emit .program module row => s.movePointer module row
  | .emit .motion _ _ => s

end Simulator

end RobotCell
