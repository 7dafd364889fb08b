import RobotCell.Data.Toml.Scalar
import RobotCell.Data.Toml.Section

/-!
# RobotCell.Data.Toml.Document

TOML text read as a table.

```
document = [byte order mark] line*
line     = space* [entry | "[" key "]" | "[[" key "]]"] space* [comment] line end
entry    = key "=" value
key      = part ("." part)*          part = bare | string on one line
value    = scalar | "[" items "]" | "{" entries "}"
```

The items of a list may run over lines, with comments between them and a comma after the last;
an inline table stands on one line.  Values are nested less than `nestingLimit` deep, and a key
has fewer parts than that.
-/

namespace RobotCell.Toml

/-- The depth that no value reaches. -/
def nestingLimit : Nat := 80

/-! ## Blanks and keys -/

/-- The text after a comment, which ends before the line end; `none` when a control character
stands in it. -/
def afterComment? (cs : List Char) : Option (List Char) :=
  let rest := cs.dropWhile isText
  match rest with
  | [] => some []
  | rest => (afterNewline? rest).map fun _ => rest

/-- The text after blanks, line ends and comments; the first argument bounds their number. -/
def skipLines : Nat → List Char → Option (List Char)
  | 0, cs => some cs
  | bound + 1, cs =>
    match cs with
    | '#' :: rest => (afterComment? rest).bind (skipLines bound)
    | cs =>
      match afterNewline? cs with
      | some rest => skipLines bound rest
      | none =>
        match cs with
        | c :: rest => if isSpace c then skipLines bound rest else some cs
        | [] => some []

/-- The text after a comment, if there is one, and the line end. -/
def afterLine? (cs : List Char) : Option (List Char) :=
  let rest := skipSpace cs
  let rest := match rest with
    | '#' :: comment => afterComment? comment
    | rest => some rest
  match rest with
  | some [] => some []
  | some rest => afterNewline? rest
  | none => none

def isBareKey (c : Char) : Bool := c.isAlphanum || c == '_' || c == '-'

/-- Reads one part of a key. -/
def readKeyPart (cs : List Char) : Option (String × List Char) :=
  match cs with
  | '"' :: _ => (readLineString cs).map fun r => (String.ofList r.1, r.2)
  | '\'' :: _ => (readLineString cs).map fun r => (String.ofList r.1, r.2)
  | cs =>
    let name := cs.takeWhile isBareKey
    if name.isEmpty then none else some (String.ofList name, cs.dropWhile isBareKey)

/-- The parts of a key before its last one, and that one. -/
abbrev Key := List String × String

/-- Reads a key and the blanks around it; the first argument bounds the number of its parts. -/
def readKey : Nat → List Char → Option (Key × List Char)
  | 0, _ => none
  | bound + 1, cs =>
    match readKeyPart (skipSpace cs) with
    | none => none
    | some (name, rest) =>
      match skipSpace rest with
      | '.' :: rest => (readKey bound rest).map fun r => ((name :: r.1.1, r.1.2), r.2)
      | rest => some (([], name), rest)

/-- Reads a key and the equals sign after it. -/
def readEntryKey (cs : List Char) : Option (Key × List Char) :=
  match readKey (nestingLimit - 1) cs with
  | some (key, '=' :: rest) => some (key, rest)
  | _ => none

/-! ## Values -/

mutual

/-- Reads a value inside `depth` others; the first argument bounds the number of steps. -/
def readValue : Nat → Nat → List Char → Option (Datum × List Char)
  | 0, _, _ => none
  | bound + 1, depth, cs =>
    match cs with
    | '[' :: rest =>
      if depth + 1 < nestingLimit then
        (readItems bound (depth + 1) rest).map fun r => (.list r.1, r.2)
      else none
    | '\x7b' :: rest =>
      if depth + 1 < nestingLimit then
        match skipSpace rest with
        | '\x7d' :: rest => some (.table [], rest)
        | rest => (readEntries bound (depth + 1) [] rest).map fun r =>
            (.table (entriesToFields r.1), r.2)
      else none
    | cs => readScalar cs

/-- Reads the items of a list up to its closing bracket. -/
def readItems : Nat → Nat → List Char → Option (List Datum × List Char)
  | 0, _, _ => none
  | bound + 1, depth, cs =>
    match skipLines (cs.length + 1) cs with
    | none => none
    | some (']' :: rest) => some ([], rest)
    | some rest =>
      match readValue bound depth rest with
      | none => none
      | some (item, rest) =>
        match skipLines (rest.length + 1) rest with
        | some (',' :: rest) => (readItems bound depth rest).map fun r => (item :: r.1, r.2)
        | some (']' :: rest) => some ([item], rest)
        | _ => none

/-- Reads the entries of an inline table up to its closing brace, after those read before. -/
def readEntries : Nat → Nat → Entries → List Char → Option (Entries × List Char)
  | 0, _, _, _ => none
  | bound + 1, depth, before, cs =>
    match readEntryKey cs with
    | none => none
    | some ((path, key), rest) =>
      match readValue bound depth (skipSpace rest) with
      | none => none
      | some (value, rest) =>
        match define path key value before with
        | none => none
        | some entries =>
          match skipSpace rest with
          | ',' :: rest => readEntries bound depth entries rest
          | '\x7d' :: rest => some (entries, rest)
          | _ => none

end

/-! ## Lines -/

/-- Where the keys of the lines that follow belong. -/
inductive Place where
  | root
  | table (key : Key)
  | item (key : Key)

/-- What has been read: the finished tables, and the one that is being read. -/
structure Reading where
  root : Entries := []
  place : Place := .root
  current : Entries := []

namespace Reading

/-- The finished tables with the one that was being read. -/
def close (r : Reading) : Option Entries :=
  match r.place with
  | .root => some r.current
  | .table key => closeTable key.1 key.2 r.current r.root
  | .item key => closeItem key.1 key.2 r.current r.root

/-- Begins the table of a header. -/
def beginTable (r : Reading) (key : Key) : Option Reading := do
  let (root, current) ← openTable key.1 key.2 (← r.close)
  return { root, place := .table key, current }

/-- Begins a table of a repeated header. -/
def beginItem (r : Reading) (key : Key) : Option Reading := do
  let root ← openItem key.1 key.2 (← r.close)
  return { root, place := .item key, current := [] }

/-- Reads one line, which is neither blank nor a comment. -/
def readLine (r : Reading) (cs : List Char) : Option (Reading × List Char) :=
  match cs with
  | '[' :: '[' :: rest =>
    match readKey (nestingLimit - 1) rest with
    | some (key, ']' :: ']' :: rest) => do return (← r.beginItem key, ← afterLine? rest)
    | _ => none
  | '[' :: rest =>
    match readKey (nestingLimit - 1) rest with
    | some (key, ']' :: rest) => do return (← r.beginTable key, ← afterLine? rest)
    | _ => none
  | cs =>
    match readEntryKey cs with
    | none => none
    | some ((path, key), rest) => do
      let (value, rest) ← readValue (2 * rest.length + 2) 0 (skipSpace rest)
      let current ← define path key value r.current
      return ({ r with current }, ← afterLine? rest)

/-- Reads every line; the first argument bounds their number. -/
def readLines : Nat → Reading → List Char → Option Entries
  | 0, _, _ => none
  | bound + 1, r, cs =>
    match skipLines (cs.length + 1) cs with
    | none => none
    | some [] => r.close
    | some rest =>
      match r.readLine rest with
      | none => none
      | some (r, rest) => readLines bound r rest

end Reading

/-- The text without a byte order mark in front. -/
def dropMark : List Char → List Char
  | '\ufeff' :: rest => rest
  | cs => cs

/-- Reads a whole text as a table. -/
def parse? (text : String) : Option Fields :=
  let cs := dropMark text.toList
  (Reading.readLines (cs.length + 1) {} cs).map entriesToFields

end RobotCell.Toml
