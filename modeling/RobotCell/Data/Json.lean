import RobotCell.Data.Datum
import RobotCell.Number.Shortest

/-!
# RobotCell.Data.Json

JSON text, read and written.

A number without fraction and exponent is an integer when it fits a signed or an unsigned 64-bit
word; every other number, and `-0`, is the nearest double.  Of fields with the same name the last
one counts.  Text is written on one line, or with one entry a line and an indent of two.
-/

namespace RobotCell.Json

/-! ## Reading -/

/-- Space, tab, line feed or carriage return. -/
def isSpace (c : Char) : Bool := c == ' ' || c == '\t' || c == '\n' || c == '\r'

def skipSpace (cs : List Char) : List Char := cs.dropWhile isSpace

/-- The value of a hexadecimal digit. -/
def hexDigit? (c : Char) : Option Nat :=
  if c.isDigit then some (c.toNat - '0'.toNat)
  else if 'a' ≤ c ∧ c ≤ 'f' then some (c.toNat - 'a'.toNat + 10)
  else if 'A' ≤ c ∧ c ≤ 'F' then some (c.toNat - 'A'.toNat + 10)
  else none

/-- The value of four hexadecimal digits. -/
def hexUnit? (a b c d : Char) : Option Nat :=
  match hexDigit? a, hexDigit? b, hexDigit? c, hexDigit? d with
  | some a, some b, some c, some d => some (((a * 16 + b) * 16 + c) * 16 + d)
  | _, _, _, _ => none

/-- The character of an escape with a single letter. -/
def escaped? : Char → Option Char
  | '"' => some '"'
  | '\\' => some '\\'
  | '/' => some '/'
  | 'b' => some '\x08'
  | 'f' => some '\x0c'
  | 'n' => some '\n'
  | 'r' => some '\r'
  | 't' => some '\t'
  | _ => none

/-- The character of two UTF-16 units, the high one first. -/
def surrogatePair? (high low : Nat) : Option Char :=
  if 0xD800 ≤ high ∧ high < 0xDC00 ∧ 0xDC00 ≤ low ∧ low < 0xE000 then
    some (Char.ofNat (0x10000 + (high - 0xD800) * 1024 + (low - 0xDC00)))
  else none

/-- Reads the characters of a string up to its closing quote. -/
def readChars : List Char → Option (List Char × List Char)
  | [] => none
  | '"' :: rest => some ([], rest)
  | '\\' :: 'u' :: a :: b :: c :: d :: '\\' :: 'u' :: e :: f :: g :: h :: rest =>
    match hexUnit? a b c d, hexUnit? e f g h with
    | some high, some low =>
      match surrogatePair? high low with
      | some ch => (readChars rest).map fun r => (ch :: r.1, r.2)
      | none =>
        if high.isValidChar then
          (readChars ('\\' :: 'u' :: e :: f :: g :: h :: rest)).map fun r =>
            (Char.ofNat high :: r.1, r.2)
        else none
    | _, _ => none
  | '\\' :: 'u' :: a :: b :: c :: d :: rest =>
    match hexUnit? a b c d with
    | some n =>
      if n.isValidChar then (readChars rest).map fun r => (Char.ofNat n :: r.1, r.2) else none
    | none => none
  | '\\' :: c :: rest =>
    match escaped? c with
    | some ch => (readChars rest).map fun r => (ch :: r.1, r.2)
    | none => none
  | c :: rest =>
    if c.toNat < 32 ∨ c = '\\' then none
    else (readChars rest).map fun r => (c :: r.1, r.2)

/-- Digits without a needless zero in front. -/
def wholeDigits (digits : List Char) : Bool :=
  match digits with
  | [] => false
  | ['0'] => true
  | c :: _ => c != '0'

/-- The fraction and exponent of a number, each with a digit where it begins. -/
def fractionFits (rest : List Char) : Bool :=
  match rest with
  | '.' :: c :: _ => c.isDigit
  | '.' :: [] => false
  | _ => true

/-- The number that a token stands for. -/
def number? (token : List Char) : Option Datum :=
  let (negative, magnitude) : Bool × List Char :=
    match token with
    | '-' :: rest => (true, rest)
    | cs => (false, cs)
  let (whole, rest) := spanDigits magnitude
  if wholeDigits whole && fractionFits rest then
    if rest.isEmpty then
      let n := digitsValue 0 whole
      let i : Int := if negative then -n else n
      if (negative && n == 0) || i < -9223372036854775808 || 18446744073709551615 < i then
        (Binary64.ofChars? token).map .float
      else some (.integer i)
    else
      match Binary64.ofChars? token with
      | some x => if x.isFinite then some (.float x) else none
      | none => none
  else none

def isNumberChar (c : Char) : Bool :=
  c.isDigit || c == '-' || c == '+' || c == '.' || c == 'e' || c == 'E'

/-- A value that is a word or a number. -/
def readScalar (cs : List Char) : Option (Datum × List Char) :=
  match cs with
  | 'n' :: 'u' :: 'l' :: 'l' :: rest => some (.null, rest)
  | 't' :: 'r' :: 'u' :: 'e' :: rest => some (.bool true, rest)
  | 'f' :: 'a' :: 'l' :: 's' :: 'e' :: rest => some (.bool false, rest)
  | cs => (number? (cs.takeWhile isNumberChar)).map fun d => (d, cs.dropWhile isNumberChar)

mutual

/-- Reads a value; the first argument bounds the depth and the number of entries. -/
def readValue : Nat → List Char → Option (Datum × List Char)
  | 0, _ => none
  | bound + 1, cs =>
    match skipSpace cs with
    | '[' :: rest =>
      match skipSpace rest with
      | ']' :: rest => some (.list [], rest)
      | rest => (readItems bound rest).map fun r => (.list r.1, r.2)
    | '\x7b' :: rest =>
      match skipSpace rest with
      | '\x7d' :: rest => some (.table [], rest)
      | rest => (readFields bound [] rest).map fun r => (.table r.1, r.2)
    | '"' :: rest => (readChars rest).map fun r => (.string (String.ofList r.1), r.2)
    | rest => readScalar rest

/-- Reads the items of a list up to its closing bracket. -/
def readItems : Nat → List Char → Option (List Datum × List Char)
  | 0, _ => none
  | bound + 1, cs =>
    match readValue bound cs with
    | none => none
    | some (item, rest) =>
      match skipSpace rest with
      | ',' :: rest => (readItems bound rest).map fun r => (item :: r.1, r.2)
      | ']' :: rest => some ([item], rest)
      | _ => none

/-- Reads the fields of a table up to its closing brace, after those read before. -/
def readFields : Nat → Fields → List Char → Option (Fields × List Char)
  | 0, _, _ => none
  | bound + 1, before, cs =>
    match skipSpace cs with
    | '"' :: rest =>
      match readChars rest with
      | none => none
      | some (name, rest) =>
        match skipSpace rest with
        | ':' :: rest =>
          match readValue bound rest with
          | none => none
          | some (value, rest) =>
            let fields := before.set (String.ofList name) value
            match skipSpace rest with
            | ',' :: rest => readFields bound fields rest
            | '\x7d' :: rest => some (fields, rest)
            | _ => none
        | _ => none
    | _ => none

end

/-- Reads a whole text as one value. -/
def parse? (text : String) : Option Datum :=
  let cs := text.toList
  match readValue (2 * cs.length + 2) cs with
  | some (value, rest) => if (skipSpace rest).isEmpty then some value else none
  | none => none

/-! ## Writing -/

def hexChar (n : Nat) : Char := if n < 10 then Char.ofNat (48 + n) else Char.ofNat (87 + n)

/-- A character inside a string: quotes, backslashes and control characters are escaped. -/
def escapeChar (c : Char) : List Char :=
  if c = '"' then ['\\', '"']
  else if c = '\\' then ['\\', '\\']
  else if c = '\n' then ['\\', 'n']
  else if c = '\r' then ['\\', 'r']
  else if c = '\t' then ['\\', 't']
  else if c = '\x08' then ['\\', 'b']
  else if c = '\x0c' then ['\\', 'f']
  else if c.toNat < 32 then ['\\', 'u', '0', '0', hexChar (c.toNat / 16), hexChar (c.toNat % 16)]
  else [c]

def quote (s : String) : String :=
  "\"" ++ String.ofList (s.toList.flatMap escapeChar) ++ "\""

/-- A float as a JSON number; one that is not finite has none and is null. -/
def floatText (x : Binary64) : String := if x.isFinite then x.toText else "null"

mutual

/-- The text of a value on one line. -/
def compact : Datum → String
  | .null => "null"
  | .bool b => if b then "true" else "false"
  | .integer i => toString i
  | .float x => floatText x
  | .string s => quote s
  | .date s => quote s
  | .list items => "[" ++ ",".intercalate (compactItems items) ++ "]"
  | .table fields => "\x7b" ++ ",".intercalate (compactFields fields) ++ "\x7d"

def compactItems : List Datum → List String
  | [] => []
  | d :: rest => compact d :: compactItems rest

def compactFields : List (String × Datum) → List String
  | [] => []
  | (name, d) :: rest => (quote name ++ ":" ++ compact d) :: compactFields rest

end

/-- A line break and the indent of a depth. -/
def lineBreak (depth : Nat) : String :=
  "\n" ++ String.ofList (List.replicate (2 * depth) ' ')

/-- The entries of a list or table with one entry a line; without entries just the brackets. -/
def block (left right : String) (depth : Nat) (entries : List String) : String :=
  if entries.isEmpty then left ++ right
  else
    left ++ lineBreak (depth + 1) ++ ("," ++ lineBreak (depth + 1)).intercalate entries ++
      lineBreak depth ++ right

mutual

/-- The text of a value with one entry a line, at a depth of nesting. -/
def prettyAt (depth : Nat) : Datum → String
  | .list items => block "[" "]" depth (prettyItems (depth + 1) items)
  | .table fields => block "\x7b" "\x7d" depth (prettyFields (depth + 1) fields)
  | d => compact d

def prettyItems (depth : Nat) : List Datum → List String
  | [] => []
  | d :: rest => prettyAt depth d :: prettyItems depth rest

def prettyFields (depth : Nat) : List (String × Datum) → List String
  | [] => []
  | (name, d) :: rest => (quote name ++ ": " ++ prettyAt depth d) :: prettyFields depth rest

end

/-- The text of a value with one entry a line. -/
def pretty (d : Datum) : String := prettyAt 0 d

end RobotCell.Json
