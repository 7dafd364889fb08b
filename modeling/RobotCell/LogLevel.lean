import RobotCell.Number.Decimal

/-!
# RobotCell.LogLevel

How much is logged, from errors only to everything.

A level is named in any case, or numbered from 1 for errors; every other text names the level
`info`.
-/

namespace RobotCell

/-- A level of detail, each with everything before it. -/
inductive LogLevel where
  | error
  | warn
  | info
  | debug
  | trace
  deriving DecidableEq

namespace LogLevel

def name : LogLevel → String
  | .error => "error"
  | .warn => "warn"
  | .info => "info"
  | .debug => "debug"
  | .trace => "trace"

/-- Every level, from errors only to everything. -/
def all : List LogLevel := [.error, .warn, .info, .debug, .trace]

/-- The level with a number, 1 for errors. -/
def ofNumber? (n : Nat) : Option LogLevel := if n = 0 then none else all[n - 1]?

/-- The level with a name, in any case of its ASCII letters. -/
def ofName? (s : String) : Option LogLevel :=
  all.find? fun level => level.name.toList == lowerAscii s.toList

/-- A name as it is written, in lower case. -/
def isName (s : String) : Bool := all.any fun level => level.name == s

/-- The level that a text names. -/
def parse (s : String) : LogLevel :=
  match (readWord? s.toList).bind ofNumber? with
  | some level => level
  | none => (ofName? s).getD .info

/-- The level of a run: the configured one, or more detail when it is asked for. -/
def ofVerbosity (configured : String) : Nat → LogLevel
  | 0 => parse configured
  | 1 => .debug
  | _ => .trace

/-- What a level shows: everything that is at least as urgent. -/
def shows (level message : LogLevel) : Bool := all.idxOf message ≤ all.idxOf level

theorem ofName?_name (level : LogLevel) : ofName? level.name = some level := by
  cases level <;> decide +kernel

end LogLevel

end RobotCell
