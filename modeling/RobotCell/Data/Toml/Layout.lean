import RobotCell.Data.Toml.Scalar

/-!
# RobotCell.Data.Toml.Layout

TOML text with a table a section and a key a line.

A string is written in the first of these ways that fits: in double quotes as it is, in single
quotes, over lines as it is, over lines verbatim, and else with escapes.  A list of two items or
more has one item a line; a float always has a fraction.
-/

namespace RobotCell.Toml

/-! ## Strings -/

/-- The length of the longest run of a character. -/
def longestRun (c : Char) (cs : List Char) : Nat :=
  let step (acc : Nat × Nat) (x : Char) : Nat × Nat :=
    let run := if x = c then acc.2 + 1 else 0
    (max acc.1 run, run)
  (cs.foldl step (0, 0)).1

/-- A control character that is neither a tab nor a line feed. -/
def isControl (c : Char) : Bool := !isText c && c != '\n'

/-- The ways to write a string. -/
inductive StringStyle where
  | basic
  | verbatim
  | basicLines
  | verbatimLines
  deriving DecidableEq

/-- The first style that fits a text; a text that fits none has escapes. -/
def stringStyle (cs : List Char) : StringStyle :=
  let control := cs.any isControl
  let lines := cs.contains '\n'
  let escape := cs.contains '\\'
  let double := longestRun '"' cs
  let single := longestRun '\'' cs
  if !control && !escape && double = 0 && !lines then .basic
  else if !control && single = 0 && !lines then .verbatim
  else if !control && !escape && double ≤ 2 then .basicLines
  else if !control && single ≤ 2 then .verbatimLines
  else if lines then .basicLines
  else .basic

/-- Four hexadecimal digits in upper case. -/
def hexUnit (n : Nat) : List Char :=
  let digits := (Nat.toDigits 16 n).map Char.toUpper
  List.replicate (4 - digits.length) '0' ++ digits

/-- A character of a string with escapes; on one line the line feed is escaped as well. -/
def escapeText (lines : Bool) (c : Char) : List Char :=
  if c = '\x08' then ['\\', 'b']
  else if c = '\t' then ['\\', 't']
  else if c = '\n' then if lines then ['\n'] else ['\\', 'n']
  else if c = '\x0c' then ['\\', 'f']
  else if c = '\r' then ['\\', 'r']
  else if c = '\\' then ['\\', '\\']
  else if isControl c then '\\' :: 'u' :: hexUnit c.toNat
  else [c]

/-- The characters of a string with escapes, after `quotes` double quotes in a row; over lines
every third one in a row is escaped, and on one line every one. -/
def escapeQuotes (lines : Bool) (quotes : Nat) : List Char → List Char
  | [] => []
  | c :: rest =>
    if c = '"' then
      if (if lines then 2 else 0) ≤ quotes then '\\' :: '"' :: escapeQuotes lines 0 rest
      else '"' :: escapeQuotes lines (quotes + 1) rest
    else escapeText lines c ++ escapeQuotes lines 0 rest

/-- A string as a value. -/
def stringText (s : String) : String :=
  let cs := s.toList
  let start := if cs.contains '\n' then "\n" else ""
  match stringStyle cs with
  | .basic => "\"" ++ String.ofList (escapeQuotes false 0 cs) ++ "\""
  | .verbatim => "'" ++ s ++ "'"
  | .basicLines => "\"\"\"" ++ start ++ String.ofList (escapeQuotes true 0 cs) ++ "\"\"\""
  | .verbatimLines => "'''" ++ start ++ s ++ "'''"

/-! ## Values -/

/-- A float with at least one place. -/
def floatText : Binary64 → String
  | .nan => "nan"
  | x =>
    match x.toInt? with
    | some _ => x.toText ++ ".0"
    | none => x.toText

mutual

/-- The text of a value. -/
def valueText : Datum → String
  | .null => ""
  | .bool b => if b then "true" else "false"
  | .integer i => toString i
  | .float x => floatText x
  | .string s => stringText s
  | .date s => s
  | .list items =>
    match itemTexts items with
    | [] => "[]"
    | [item] => "[" ++ item ++ "]"
    | items => "[" ++ String.join (items.map fun item => "\n    " ++ item ++ ",") ++ "\n]"
  | .table fields => "\x7b " ++ ", ".intercalate (fieldTexts fields) ++ " \x7d"

def itemTexts : List Datum → List String
  | [] => []
  | d :: rest => valueText d :: itemTexts rest

def fieldTexts : List (String × Datum) → List String
  | [] => []
  | (name, d) :: rest => (name ++ " = " ++ valueText d) :: fieldTexts rest

end

/-! ## Documents -/

/-- A table under its header. -/
def sectionText (name : String) (fields : Fields) : String :=
  "[" ++ name ++ "]\n" ++ String.join ((fieldTexts fields).map (· ++ "\n"))

/-- Tables under their headers, a blank line between them. -/
def documentText (sections : List (String × Fields)) : String :=
  "\n".intercalate (sections.map fun s => sectionText s.1 s.2)

/-- An integer of a field is a signed 64-bit word; no other can be written. -/
def fits : Datum → Bool
  | .integer i => -9223372036854775808 ≤ i && i ≤ 9223372036854775807
  | _ => true

/-- The text of tables whose fields can be written. -/
def documentText? (sections : List (String × Fields)) : Option String :=
  if sections.all fun s => s.2.all fun field => fits field.2 then some (documentText sections)
  else none

end RobotCell.Toml
