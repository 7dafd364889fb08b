import RobotCell.Data.Overlay
import RobotCell.Data.Toml.Scalar
import RobotCell.Text.Blank
import RobotCell.Text.Bytes

/-!
# RobotCell.Settings.Environment

Settings from environment variables.

A variable whose name begins with `TORO_`, in any case of its letters, gives a setting: the rest of
the name is its path, in lower case and with an underscore between two steps.  Its value is

```
value   = blank* (truth | table | list | string | word) blank*
truth   = "true" | "false"
table   = "{" [entry ("," entry)* [","]] "}"        entry = key "=" value
list    = "[" [value ("," value)* [","]] "]"
string  = '"' basic* '"' | "'" character "'"
word    = text without commas, brackets and braces, trimmed
```

A word is a number when it reads as one, and a float only with a point in it.  In a string with
escapes the text before the first of them holds no more bytes than it has characters; what does not
fit is left out.  A value of no such form is a string as it stands.
-/

namespace RobotCell.Environment

/-! ## Values -/

/-- A character of a word. -/
def isWordChar (c : Char) : Bool :=
  !(c == ',' || c == '\x7b' || c == '\x7d' || c == '[' || c == ']')

/-- A character of a key without quotes. -/
def isKeyChar (c : Char) : Bool := c.isAlphanum || c == '_' || c == '-'

/-- The value of a word. -/
def wordValue (cs : List Char) : Datum :=
  let float? := if cs.contains '.' then Binary64.ofChars? cs else none
  match float?, readInteger? cs with
  | some x, _ => .float x
  | none, some i => .integer i
  | none, none => .string (String.ofList cs)

/-- The text of a string in double quotes from what is written and what that reads as: before the
first escape it is cut to as many bytes as there are characters. -/
def quotedText (written text : List Char) : List Char :=
  let plain := written.takeWhile fun c => c != '\\' && c != '"'
  if written[plain.length]? = some '\\' then
    fitBytes plain.length plain ++ text.drop plain.length
  else text

/-- Reads a string in double quotes, after the first of them. -/
def readQuoted (cs : List Char) : Option (String × List Char) :=
  (Toml.readLine '"' false (cs.length + 1) cs).map fun r =>
    (String.ofList (quotedText cs r.1), r.2)

/-- Reads a key and the blanks around it. -/
def readKey (cs : List Char) : Option (String × List Char) :=
  let key := match skipBlanks cs with
    | '"' :: rest => readQuoted rest
    | cs =>
      let name := cs.takeWhile isKeyChar
      if name.isEmpty then none else some (String.ofList name, cs.dropWhile isKeyChar)
  key.map fun r => (r.1, skipBlanks r.2)

mutual

/-- Reads a value and the blanks around it; the first argument bounds the number of steps. -/
def readValue : Nat → List Char → Option (Datum × List Char)
  | 0, _ => none
  | bound + 1, cs =>
    let value : Option (Datum × List Char) := match skipBlanks cs with
      | 't' :: 'r' :: 'u' :: 'e' :: rest => some (.bool true, rest)
      | 'f' :: 'a' :: 'l' :: 's' :: 'e' :: rest => some (.bool false, rest)
      | '\x7b' :: rest => (readEntries bound [] rest).map fun r => (.table r.1, r.2)
      | '[' :: rest => (readItems bound rest).map fun r => (.list r.1, r.2)
      | '"' :: rest => (readQuoted rest).map fun r => (.string r.1, r.2)
      | '\'' :: c :: '\'' :: rest => some (.string (String.singleton c), rest)
      | '\'' :: _ => none
      | cs => some (wordValue (trim (cs.takeWhile isWordChar)), cs.dropWhile isWordChar)
    value.map fun r => (r.1, skipBlanks r.2)

/-- Reads the items of a list up to its closing bracket. -/
def readItems : Nat → List Char → Option (List Datum × List Char)
  | 0, _ => none
  | bound + 1, cs =>
    match cs with
    | ']' :: rest => some ([], rest)
    | cs =>
      match readValue bound cs with
      | some (item, ',' :: rest) => (readItems bound rest).map fun r => (item :: r.1, r.2)
      | some (item, ']' :: rest) => some ([item], rest)
      | _ => none

/-- Reads the entries of a table up to its closing brace, after those read before. -/
def readEntries : Nat → Fields → List Char → Option (Fields × List Char)
  | 0, _, _ => none
  | bound + 1, before, cs =>
    match cs with
    | '\x7d' :: rest => some (before, rest)
    | cs =>
      match readKey cs with
      | some (key, '=' :: rest) =>
        match readValue bound rest with
        | some (value, ',' :: rest) => readEntries bound (before.set key value) rest
        | some (value, '\x7d' :: rest) => some (before.set key value, rest)
        | _ => none
      | _ => none

end

/-- The value of a variable. -/
def value (text : String) : Datum :=
  let cs := text.toList
  match readValue (2 * cs.length + 2) cs with
  | some (d, []) => d
  | _ => .string text

/-! ## Names -/

/-- The steps of a name that are apart by underscores or points. -/
def splitSteps : List Char → List (List Char)
  | [] => [[]]
  | c :: rest =>
    if c = '_' ∨ c = '.' then [] :: splitSteps rest
    else
      match splitSteps rest with
      | [] => [[c]]
      | step :: steps => (c :: step) :: steps

/-- The path of the setting that a variable gives; no step of it is empty. -/
def path? (name : String) : Option (List String) :=
  let cs := lowerAscii (trim name.toList)
  if cs.take 5 = ['t', 'o', 'r', 'o', '_'] then
    let steps := splitSteps (trim (cs.drop 5))
    if steps.any List.isEmpty then none else some (steps.map String.ofList)
  else none

/-! ## Settings -/

/-- The fields with the setting of a variable over them. -/
def addVariable (fields : Fields) (entry : String × String) : Fields :=
  match path? entry.1 with
  | some path =>
    match Datum.atPath path (value entry.2) with
    | .table upper => Fields.over fields upper
    | _ => fields
  | none => fields

/-- The settings that variables give, a later one over an earlier one. -/
def fields (environment : List (String × String)) : Fields := environment.foldl addVariable []

end RobotCell.Environment
