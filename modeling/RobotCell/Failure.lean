import RobotCell.Number.Shortest
import RobotCell.Controller.Mode

/-!
# RobotCell.Failure

Everything that can go wrong, by cause.

A `Failure` holds the cause as data; `Failure.message` is the only place that words it, and
`Failure.kind` sorts it:

* *validation*: malformed input, found before anything remote happens;
* *session*: logon, operating mode, or an operation in the wrong session state;
* *protocol*: the controller answered and refused;
* *io*: a local file could not be read or written;
* *config*: configuration that cannot be loaded or is inconsistent.
-/

namespace RobotCell

/-! ## Causes -/

/-- Why a list of levels is no catalog. -/
inductive CatalogDefect where
  | noLevels
  | notFinite (symbol : String)
  | notAscending
  deriving DecidableEq

/-- Why a pose cannot be sent to a robot; `literal` is the text of the pose. -/
inductive PoseDefect where
  | component (value : Binary64) (literal : String)
  | orientationNorm (norm : Binary64) (literal : String)
  | joint (value : Binary64) (literal : String)
  | externalAxis (value : Binary64)
  deriving DecidableEq

/-- Where the reader of literals stops. -/
inductive ReadFault where
  | unexpectedEnd
  | expectedSeparator
  | unterminatedString
  | badScalar (token : String)
  deriving DecidableEq

/-- The groups that a target literal is made of. -/
inductive TargetGroup where
  | robtarget
  | position
  | orientation
  | configuration
  | externalAxes
  | jointtarget
  | joints
  deriving DecidableEq

/-- Why a text is not the literal that was asked for. -/
inductive LiteralDefect where
  /-- The reader stops; the offset counts bytes. -/
  | unreadable (fault : ReadFault) (offset : Nat)
  | trailing
  | group (wanted : TargetGroup)
  | notOfType (type : String)
  | unknownShape
  deriving DecidableEq

/-- Why a streaming window cannot be set up. -/
inductive WindowDefect where
  | noSlot
  | feedMargin (margin window : Nat)
  | retireMargin (margin feedMargin : Nat)
  deriving DecidableEq

/-- Why a logon, or an operation that needs one, fails. -/
inductive LogonDefect where
  | unreachable (controller : String)
  | credentials (user : String)
  | notLoggedOn
  deriving DecidableEq

/-- Why a controller does not load a file. -/
inductive LoadDefect where
  | noHeader
  | notTerminated (name : String)
  | alreadyLoaded (name : String)
  | other (reason : String)
  deriving DecidableEq

/-- Why a controller refuses a request. -/
inductive Refusal where
  | needsMastership (operation : String)
  | mastershipHeld
  | releaseTimedOut
  | fileExists (name : String)
  | noFile (name : String)
  | moduleNotLoaded (name : String)
  | noModuleLoaded
  | unsupportedType (type : String)
  | other (message : String)
  deriving DecidableEq

/-- Why a configuration is not used. -/
inductive SettingsDefect where
  /-- The file or the environment does not give the settings their types. -/
  | unreadable
  | logLevel (name : String)
  | emptyTask
  | emptyModule
  | speeds (defect : CatalogDefect)
  | zones (defect : CatalogDefect)
  | streaming (defect : WindowDefect)
  deriving DecidableEq

/-! ## Failures -/

/-- What went wrong. -/
inductive Failure where
  | invalidCatalog (defect : CatalogDefect)
  | emptyTargetList
  | parameterListEmpty (list : String)
  | mismatchedTargets (via destinations : Nat)
  | invalidLevel (value : Binary64)
  | invalidPose (defect : PoseDefect)
  | invalidLiteral (literal : String) (defect : LiteralDefect)
  | fileNotFound (path : String)
  | session (defect : LogonDefect)
  | wrongMode (mode : OperatingMode)
  | wrongState (operation required actual : String)
  | symbolNotFound (module name : String)
  | typeMismatch (name expected found : String)
  | loadRejected (file : String) (defect : LoadDefect)
  | refused (refusal : Refusal)
  | io
  | settings (defect : SettingsDefect)
  | window (defect : WindowDefect)
  deriving DecidableEq

/-- The sorts of failure. -/
inductive FailureKind where
  | validation
  | session
  | protocol
  | io
  | config
  deriving DecidableEq

/-- The sort of a failure. -/
def Failure.kind : Failure → FailureKind
  | .invalidCatalog _ | .emptyTargetList | .parameterListEmpty _ | .mismatchedTargets _ _
  | .invalidLevel _ | .invalidPose _ | .invalidLiteral _ _ | .fileNotFound _ => .validation
  | .session _ | .wrongMode _ | .wrongState _ _ _ => .session
  | .symbolNotFound _ _ | .typeMismatch _ _ _ | .loadRejected _ _ | .refused _ => .protocol
  | .io => .io
  | .settings _ | .window _ => .config

/-! ## Wording -/

def CatalogDefect.message : CatalogDefect → String
  | .noLevels => "catalog has no levels"
  | .notFinite symbol => "level for '" ++ symbol ++ "' is not finite"
  | .notAscending => "levels must be strictly ascending"

def PoseDefect.message : PoseDefect → String
  | .component value literal => "component " ++ value.toText ++ " is not finite in " ++ literal
  | .orientationNorm norm literal =>
    "orientation norm " ++ norm.toText ++ " is not 1 in " ++ literal
  | .joint value literal => "joint angle " ++ value.toText ++ " is not finite in " ++ literal
  | .externalAxis value => "external axis value " ++ value.toText ++ " is not finite"

def ReadFault.message : ReadFault → String
  | .unexpectedEnd => "unexpected end of input"
  | .expectedSeparator => "expected ',' or ']'"
  | .unterminatedString => "unterminated string"
  | .badScalar token => "bad scalar '" ++ token ++ "'"

def TargetGroup.need : TargetGroup → String
  | .robtarget => "robtarget needs 4 groups"
  | .position => "position needs 3 numbers"
  | .orientation => "orientation needs 4 numbers"
  | .configuration => "configuration needs 4 numbers"
  | .externalAxes => "external axes need 6 numbers"
  | .jointtarget => "jointtarget needs 2 groups"
  | .joints => "joint group needs 6 numbers"

def LiteralDefect.message : LiteralDefect → String
  | .unreadable fault offset => fault.message ++ " at offset " ++ toString offset
  | .trailing => "trailing characters"
  | .group wanted => wanted.need
  | .notOfType type => "not a " ++ type ++ " value"
  | .unknownShape => "unrecognised record shape"

def WindowDefect.message : WindowDefect → String
  | .noSlot => "streaming window must have at least one slot"
  | .feedMargin margin window =>
    "feed_margin (" ++ toString margin ++ ") must be smaller than the window (" ++
      toString window ++ ")"
  | .retireMargin margin feed =>
    "retire_margin (" ++ toString margin ++ ") must not exceed feed_margin (" ++
      toString feed ++ ")"

def LogonDefect.message : LogonDefect → String
  | .unreachable controller => "controller " ++ controller ++ " is unreachable"
  | .credentials user => "credentials rejected for user '" ++ user ++ "'"
  | .notLoggedOn => "not logged on"

def LoadDefect.message : LoadDefect → String
  | .noHeader => "missing MODULE header"
  | .notTerminated name => "module '" ++ name ++ "' is not terminated"
  | .alreadyLoaded name => "module '" ++ name ++ "' already loaded"
  | .other reason => reason

def Refusal.message : Refusal → String
  | .needsMastership operation => operation ++ " requires mastership"
  | .mastershipHeld => "mastership already held"
  | .releaseTimedOut => "mastership release timed out"
  | .fileExists name => "'" ++ name ++ "' already exists"
  | .noFile name => "no file '" ++ name ++ "' in storage"
  | .moduleNotLoaded name => "module '" ++ name ++ "' is not loaded"
  | .noModuleLoaded => "no module loaded"
  | .unsupportedType type => "unsupported data type '" ++ type ++ "'"
  | .other message => message

def SettingsDefect.message : SettingsDefect → String
  | .unreadable => "Failed to load configuration"
  | .logLevel name =>
    "Configuration validation failed: Invalid log_level '" ++ name ++
      "'. Must be one of: trace, debug, info, warn, error"
  | .emptyTask => "Configuration validation failed: controller.task cannot be empty"
  | .emptyModule => "Configuration validation failed: controller.module cannot be empty"
  | .speeds defect => "Configuration validation failed: catalog.speeds: " ++ defect.message
  | .zones defect => "Configuration validation failed: catalog.zones: " ++ defect.message
  | .streaming defect => "Configuration validation failed: streaming: " ++ defect.message

/-- The text of a failure. -/
def Failure.message : Failure → String
  | .invalidCatalog defect => "Invalid catalog: " ++ defect.message
  | .emptyTargetList => "Target list is empty"
  | .parameterListEmpty list => "Parameter list '" ++ list ++ "' is empty"
  | .mismatchedTargets via destinations =>
    "Target lists differ in length: " ++ toString via ++ " through-points vs " ++
      toString destinations ++ " destinations"
  | .invalidLevel value =>
    "Invalid level " ++ value.toText ++ ": catalog levels must be finite"
  | .invalidPose defect => "Invalid pose: " ++ defect.message
  | .invalidLiteral literal defect =>
    "Invalid literal '" ++ literal ++ "': " ++ defect.message
  | .fileNotFound path => "File not found: " ++ path
  | .session defect => "Session error: " ++ defect.message
  | .wrongMode mode =>
    "Automatic mode is required to start execution from a remote client (controller is in " ++
      mode.name ++ " mode)"
  | .wrongState operation required actual =>
    "Operation '" ++ operation ++ "' requires " ++ required ++ ", session is " ++ actual
  | .symbolNotFound module name =>
    "Symbol '" ++ name ++ "' not found in module '" ++ module ++ "'"
  | .typeMismatch name expected found =>
    "Type mismatch writing '" ++ name ++ "': controller holds " ++ expected ++
      ", value is " ++ found
  | .loadRejected file defect => "Controller rejected '" ++ file ++ "': " ++ defect.message
  | .refused refusal => "Controller error: " ++ refusal.message
  | .io => "I/O error"
  | .settings defect => defect.message
  | .window defect => "Configuration validation error: " ++ defect.message

end RobotCell
