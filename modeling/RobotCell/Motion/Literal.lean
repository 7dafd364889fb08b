import RobotCell.Text.Blank
import RobotCell.Text.Bytes
import RobotCell.Failure

/-!
# RobotCell.Motion.Literal

Bracketed literals: the text form of every record on the controller.

```
value  = blank* (list | string | scalar)
list   = "[" blank* "]" | "[" value blank* ("," value blank*)* "]"
string = '"' any characters but '"' '"'
scalar = a maximal run without "," "[" "]", trimmed: TRUE, FALSE or a number
```

Blanks between tokens are ASCII; the text around the value is trimmed of all blanks, and one
semicolon may end it.

The reader works on the text still to be read.  A failure keeps that rest, so that its offset is
the length of the text minus the length of the rest (`LiteralDefect.unreadable`).
-/

namespace RobotCell

/-! ## Trees -/

/-- A literal. -/
inductive Literal where
  | list (items : List Literal)
  | num (value : Binary64)
  | bool (value : Bool)
  | str (text : String)

namespace Literal

/-- The number of a numeric literal. -/
def num? : Literal → Option Binary64
  | .num value => some value
  | _ => none

/-- The items of a list. -/
def items? : Literal → Option (List Literal)
  | .list items => some items
  | _ => none

/-- The numbers of a list of nothing but numbers, when there are exactly `n` of them. -/
def numbers? (n : Nat) (t : Literal) : Option (Vector Binary64 n) :=
  match t.items? with
  | none => none
  | some items =>
    match items.mapM num? with
    | none => none
    | some values => if h : values.length = n then some ⟨values.toArray, h⟩ else none

end Literal

/-! ## Writing -/

/-- The text of a number inside a literal: a zero has no sign. -/
def numberText (x : Binary64) : String := if x.isZero then "0" else x.toText

/-- The text of a truth value. -/
def flagText (b : Bool) : String := if b then "TRUE" else "FALSE"

/-- The texts in brackets, apart by commas. -/
def bracketed (parts : List String) : String := "[" ++ ",".intercalate parts ++ "]"

/-- The text of a list of numbers. -/
def numbersText (values : List Binary64) : String := bracketed (values.map numberText)

/-! ## Reading -/

/-- A stop of the reader, with the text that was still to be read. -/
abbrev Stop := ReadFault × List Char

/-- The characters that end a scalar. -/
def endsScalar (c : Char) : Bool := c == ',' || c == ']' || c == '['

/-- The value of a scalar's text, trimmed before. -/
def scalarValue? (token : List Char) : Option Literal :=
  if token = ['T', 'R', 'U', 'E'] then some (.bool true)
  else if token = ['F', 'A', 'L', 'S', 'E'] then some (.bool false)
  else (Binary64.ofChars? token).map .num

/-- Reads a scalar from its first character. -/
def readScalar (cs : List Char) : Except Stop (Literal × List Char) :=
  let token := trim (cs.takeWhile fun c => !endsScalar c)
  let rest := cs.dropWhile fun c => !endsScalar c
  match scalarValue? token with
  | some value => .ok (value, rest)
  | none => .error (.badScalar (String.ofList token), rest)

/-- Reads a string after its opening quote. -/
def readString (cs : List Char) : Except Stop (Literal × List Char) :=
  match cs.dropWhile (· != '"') with
  | [] => .error (.unterminatedString, [])
  | _ :: rest => .ok (.str (String.ofList (cs.takeWhile (· != '"'))), rest)

mutual

/-- Reads a value; the first argument bounds the depth and the number of items. -/
def readValue : Nat → List Char → Except Stop (Literal × List Char)
  | 0, cs => .error (.unexpectedEnd, cs)
  | bound + 1, cs =>
    match skipBlanks cs with
    | [] => .error (.unexpectedEnd, [])
    | '[' :: rest =>
      match skipBlanks rest with
      | ']' :: rest => .ok (.list [], rest)
      | rest =>
        match readItems bound rest with
        | .ok (items, rest) => .ok (.list items, rest)
        | .error stop => .error stop
    | '"' :: rest => readString rest
    | rest => readScalar rest

/-- Reads the items of a list up to its closing bracket. -/
def readItems : Nat → List Char → Except Stop (List Literal × List Char)
  | 0, cs => .error (.unexpectedEnd, cs)
  | bound + 1, cs =>
    match readValue bound cs with
    | .error stop => .error stop
    | .ok (item, rest) =>
      match skipBlanks rest with
      | ',' :: rest =>
        match readItems bound rest with
        | .ok (items, rest) => .ok (item :: items, rest)
        | .error stop => .error stop
      | ']' :: rest => .ok ([item], rest)
      | rest => .error (.expectedSeparator, rest)

end

/-- A bound that no text of this length reaches: a value and a list of items take one step each,
and every two steps take a character. -/
def readBound (cs : List Char) : Nat := 2 * cs.length + 2

/-- The text without one semicolon at its end. -/
def dropSemicolon (cs : List Char) : List Char :=
  if cs.getLast? = some ';' then cs.dropLast else cs

/-- The part of a text that holds the value. -/
def literalBody (cs : List Char) : List Char := dropSemicolon (trim cs)

/-- Reads a whole text as one literal. -/
def Literal.parse (text : String) : Except Failure Literal :=
  let body := literalBody text.toList
  match readValue (readBound body) body with
  | .error (fault, rest) =>
    .error (.invalidLiteral (String.ofList body)
      (.unreadable fault (utf8Length body - utf8Length rest)))
  | .ok (value, rest) =>
    match skipBlanks rest with
    | [] => .ok value
    | _ => .error (.invalidLiteral text .trailing)

end RobotCell
