import RobotCell.Command.Request

/-!
# RobotCell.Command.Arguments

Command lines read as requests.

```
line     = switch* ("compile" part* | "config" part* | "help" [command])
part     = switch | job | "--" job*
switch   = "--name" | "--name=value" | "--name" value | "-" flag* [letter ["="] [value]]
```

Arguments are read from left to right, and the first that stops the reading decides: a flag for
help, or a misuse.  The value of an option is checked when the next switch is read or the line
ends.  Switches of the whole line may also stand after the command, where they count first.
-/

namespace RobotCell.Command

/-! ## Switches -/

/-- Why a command line asks for nothing. -/
inductive Stop where
  | help
  | version
  | misuse
  deriving DecidableEq

/-- What takes a value. -/
inductive Slot where
  | settings
  | job
  | output
  | descriptor
  | manifest
  deriving DecidableEq

/-- A switch: a flag or an option. -/
inductive Switch where
  | verbose
  | stop (reason : Stop)
  | option (slot : Slot)

/-- The part of a line that is read. -/
inductive Level where
  | line
  | compile
  | config
  deriving DecidableEq

namespace Level

/-- The switch with a long name. -/
def long? (level : Level) (name : String) : Option Switch :=
  match name, level with
  | "config", _ => some (.option .settings)
  | "verbose", _ => some .verbose
  | "help", _ => some (.stop .help)
  | "version", .line => some (.stop .version)
  | "output", .compile => some (.option .output)
  | "pgf", .compile => some (.option .descriptor)
  | "manifest", .compile => some (.option .manifest)
  | _, _ => none

/-- The switch with a letter. -/
def short? (level : Level) (letter : Char) : Option Switch :=
  match letter, level with
  | 'v', _ => some .verbose
  | 'h', _ => some (.stop .help)
  | 'V', .line => some (.stop .version)
  | 'o', .compile => some (.option .output)
  | _, _ => none

end Level

/-! ## Reading -/

/-- What has been read at one level. -/
structure Reading where
  values : List (Slot × String) := []
  /-- The option or argument that was read last, and its value if it is there. -/
  pending : Option (Slot × Option String) := none
  verbosity : Nat := 0
  deriving DecidableEq

namespace Reading

/-- The value of a slot. -/
def value? (r : Reading) (slot : Slot) : Option String := List.lookup slot r.values

/-- Checks the value that was read last: it is there, it is not empty, and it is the only one. -/
def settle (r : Reading) : Except Stop Reading :=
  match r.pending with
  | none => .ok r
  | some (_, none) => .error .misuse
  | some (slot, some value) =>
    if value = "" ∨ (r.value? slot).isSome then .error .misuse
    else .ok { r with values := (slot, value) :: r.values, pending := none }

/-- The reading with a slot that may still lack its value. -/
def begin (r : Reading) (slot : Slot) (value : Option String) : Except Stop Reading :=
  match r.settle with
  | .error stop => .error stop
  | .ok r => .ok { r with pending := some (slot, value) }

/-- Takes a value that is attached to its option. -/
def attach (r : Reading) (slot : Slot) (value : String) : Except Stop Reading :=
  match r.begin slot (some value) with
  | .error stop => .error stop
  | .ok r => r.settle

/-- Counts a flag for more detail. -/
def countVerbose (r : Reading) : Except Stop Reading :=
  match r.settle with
  | .error stop => .error stop
  | .ok r => .ok { r with verbosity := r.verbosity + 1 }

/-- Stops at a flag. -/
def stopAt (r : Reading) (reason : Stop) : Except Stop Reading :=
  match r.settle with
  | .error stop => .error stop
  | .ok _ => .error reason

/-- Takes a switch with a long name, and the value after its equals sign. -/
def takeLong (r : Reading) (level : Level) (name : String) (value : Option String) :
    Except Stop Reading :=
  match level.long? name, value with
  | some .verbose, none => r.countVerbose
  | some (.stop reason), none => r.stopAt reason
  | some (.option slot), none => r.begin slot none
  | some (.option slot), some value => r.attach slot value
  | _, _ => .error .misuse

/-- Takes the letters after a dash: flags, and then an option with the rest as its value. -/
def takeLetters (r : Reading) (level : Level) : List Char → Except Stop Reading
  | [] => .ok r
  | c :: rest =>
    match level.short? c with
    | some .verbose =>
      match r.countVerbose with
      | .error stop => .error stop
      | .ok r => r.takeLetters level rest
    | some (.stop reason) => r.stopAt reason
    | some (.option slot) =>
      match rest with
      | [] => r.begin slot none
      | '=' :: value => r.attach slot (String.ofList value)
      | value => r.attach slot (String.ofList value)
    | none => .error .misuse

/-- Takes an argument that begins with a dash; `none` for every other, and for a dash alone. -/
def takeSwitch? (r : Reading) (level : Level) (arg : List Char) :
    Option (Except Stop Reading) :=
  match arg with
  | '-' :: '-' :: rest =>
    let name := String.ofList (rest.takeWhile (· != '='))
    match rest.dropWhile (· != '=') with
    | [] => some (r.takeLong level name none)
    | _ :: value => some (r.takeLong level name (some (String.ofList value)))
  | '-' :: c :: rest => some (r.takeLetters level (c :: rest))
  | _ => none

/-- Takes a word that is no value of an option; only a command that has a job takes one. -/
def takeWord (r : Reading) (level : Level) (word : String) : Except Stop Reading :=
  let taken := (r.value? .job).isSome || r.pending.any fun p => p.1 == .job
  if level = .compile ∧ taken = false then r.begin .job (some word) else .error .misuse

/-- Takes a word for the option that waits for a value, if one does. -/
def giveValue? (r : Reading) (word : String) : Option Reading :=
  match r.pending with
  | some (slot, none) => some { r with pending := some (slot, some word) }
  | _ => none

/-- Takes the words after a double dash. -/
def takeWords (r : Reading) (level : Level) : List String → Except Stop Reading
  | [] => .ok r
  | word :: rest =>
    match r.takeWord level word with
    | .error stop => .error stop
    | .ok r => r.takeWords level rest

/-- Takes the arguments after a command. -/
def takeArguments (r : Reading) (level : Level) : List String → Except Stop Reading
  | [] => r.settle
  | arg :: rest =>
    if arg = "--" then (r.takeWords level rest).bind settle
    else
      match r.takeSwitch? level arg.toList with
      | some (.error stop) => .error stop
      | some (.ok r) => r.takeArguments level rest
      | none =>
        match r.giveValue? arg with
        | some r => r.takeArguments level rest
        | none =>
          match r.takeWord level arg with
          | .error stop => .error stop
          | .ok r => r.takeArguments level rest

/-! ## Requests -/

/-- The files of a compilation, if all that are needed are there. -/
def compilation? (r : Reading) : Option Compilation :=
  match r.value? .job, r.value? .output with
  | some job, some output =>
    some { job, output, descriptor := r.value? .descriptor, manifest := r.value? .manifest }
  | _, _ => none

/-- A request with the switches of a line and of its command, which count first. -/
def request (line command : Reading) (task : Task) : Request where
  settingsPath := ((command.value? .settings).or (line.value? .settings)).getD Settings.defaultPath
  verbosity := if command.verbosity = 0 then line.verbosity else command.verbosity
  task := task

/-- Reads a command with its arguments, after the switches of the line. -/
def takeCommand (r : Reading) (name : String) (args : List String) : Except Stop Request := do
  match name with
  | "compile" =>
    let command ← Reading.takeArguments {} .compile args
    match command.compilation? with
    | some files => return request (← r.settle) command (.compile files)
    | none => throw .misuse
  | "config" =>
    let command ← Reading.takeArguments {} .config args
    return request (← r.settle) command .showSettings
  | "help" => throw (if args ∈ [[], ["compile"], ["config"], ["help"]] then .help else .misuse)
  | _ => throw .misuse

/-- Takes the arguments of a line up to its command. -/
def takeLine (r : Reading) : List String → Except Stop Request
  | [] => .error .misuse
  | arg :: rest =>
    if arg = "--" then .error .misuse
    else
      match r.takeSwitch? .line arg.toList with
      | some (.error stop) => .error stop
      | some (.ok r) => r.takeLine rest
      | none =>
        match r.giveValue? arg with
        | some r => r.takeLine rest
        | none => r.takeCommand arg rest

end Reading

/-- The request of a command line. -/
def Request.ofArguments (args : List String) : Except Stop Request := Reading.takeLine {} args

end RobotCell.Command
