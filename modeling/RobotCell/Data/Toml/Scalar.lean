import RobotCell.Data.Json

/-!
# RobotCell.Data.Toml.Scalar

Scalars of TOML: strings, numbers, truth values and dates.

```
string  = '"' basic* '"' | "'" verbatim* "'" | the same in three quotes, over many lines
integer = [sign] decimal | "0x" hexadecimal | "0o" octal | "0b" binary
float   = [sign] decimal ["." digits] ["e" [sign] digits] | [sign] ("inf" | "nan")
date    = yyyy-mm-dd [("T" | "t" | " ") time [zone]] | time
time    = hh:mm:ss ["." digits]        zone = "Z" | "z" | sign hh:mm
```

Digits may be grouped by single underscores.  An integer is a signed 64-bit word.  A positive
float past the finite range is refused, a negative one is the negative infinity.
-/

namespace RobotCell.Toml

/-! ## Characters -/

/-- Space or tab. -/
def isSpace (c : Char) : Bool := c == ' ' || c == '\t'

def skipSpace (cs : List Char) : List Char := cs.dropWhile isSpace

/-- A character of comments and strings: every character but the control characters, the tab
excepted. -/
def isText (c : Char) : Bool := c == '\t' || (32 ≤ c.toNat && c.toNat != 127)

/-- The text after a line end. -/
def afterNewline? : List Char → Option (List Char)
  | '\n' :: rest => some rest
  | '\r' :: '\n' :: rest => some rest
  | _ => none

/-! ## Strings -/

/-- A character and the text after it. -/
abbrev CharStep := Option (Char × List Char)

/-- The character of hexadecimal digits. -/
def codePoint? (width : Nat) (cs : List Char) : CharStep :=
  let digits := cs.take width
  if digits.length = width then
    match digits.mapM Json.hexDigit? with
    | some values =>
      let n := values.foldl (fun n v => 16 * n + v) 0
      if n.isValidChar then some (Char.ofNat n, cs.drop width) else none
    | none => none
  else none

/-- The character of an escape, after its backslash. -/
def escape? : List Char → CharStep
  | 'b' :: rest => some ('\x08', rest)
  | 't' :: rest => some ('\t', rest)
  | 'n' :: rest => some ('\n', rest)
  | 'f' :: rest => some ('\x0c', rest)
  | 'r' :: rest => some ('\r', rest)
  | '"' :: rest => some ('"', rest)
  | '\\' :: rest => some ('\\', rest)
  | 'u' :: rest => codePoint? 4 rest
  | 'U' :: rest => codePoint? 8 rest
  | _ => none

/-- Characters and the text after them. -/
abbrev TextStep := Option (List Char × List Char)

/-- A character before the rest of a string. -/
def TextStep.cons (c : Char) (step : TextStep) : TextStep := step.map fun r => (c :: r.1, r.2)

/-- Reads a string on one line up to its closing quote; a verbatim string has no escapes.  The
first argument bounds the number of characters. -/
def readLine (quote : Char) (verbatim : Bool) : Nat → List Char → TextStep
  | 0, _ => none
  | _, [] => none
  | bound + 1, c :: rest =>
    if c = quote then some ([], rest)
    else if c = '\\' ∧ verbatim = false then
      match escape? rest with
      | some (ch, rest) => .cons ch (readLine quote verbatim bound rest)
      | none => none
    else if isText c then .cons c (readLine quote verbatim bound rest)
    else none

/-- The text after a line end and the blanks and line ends that follow it. -/
def afterLineBreaks? (cs : List Char) : Option (List Char) :=
  let blank (c : Char) : Bool := isSpace c || c == '\n'
  let rec skip : List Char → List Char
    | '\r' :: '\n' :: rest => skip rest
    | c :: rest => if blank c then skip rest else c :: rest
    | [] => []
  (afterNewline? (skipSpace cs)).map skip

/-- Reads a string over many lines up to its three closing quotes, before which two more quotes
may stand.  A backslash at the end of a line joins it to the next text. -/
def readLines (quote : Char) (verbatim : Bool) : Nat → List Char → TextStep
  | 0, _ => none
  | _, [] => none
  | bound + 1, c :: rest =>
    if c = quote then
      let run := (c :: rest).takeWhile (· == quote)
      if run.length < 3 then .cons c (readLines quote verbatim bound rest)
      else
        let inside := min 2 (run.length - 3)
        some (List.replicate inside quote, (c :: rest).drop (inside + 3))
    else if c = '\\' ∧ verbatim = false then
      match afterLineBreaks? rest with
      | some rest => readLines quote verbatim bound rest
      | none =>
        match escape? rest with
        | some (ch, rest) => .cons ch (readLines quote verbatim bound rest)
        | none => none
    else
      match afterNewline? (c :: rest) with
      | some rest => .cons '\n' (readLines quote verbatim bound rest)
      | none => if isText c then .cons c (readLines quote verbatim bound rest) else none

/-- Reads a string on one line from its opening quote. -/
def readLineString (cs : List Char) : TextStep :=
  match cs with
  | '"' :: rest => readLine '"' false (rest.length + 1) rest
  | '\'' :: rest => readLine '\'' true (rest.length + 1) rest
  | _ => none

/-- Reads a string of any kind from its opening quote; a line end right after three opening quotes
is no part of it. -/
def readString (cs : List Char) : TextStep :=
  let lines (quote : Char) (verbatim : Bool) (body : List Char) : TextStep :=
    let body := (afterNewline? body).getD body
    readLines quote verbatim (body.length + 1) body
  match cs with
  | '"' :: '"' :: '"' :: rest => lines '"' false rest
  | '\'' :: '\'' :: '\'' :: rest => lines '\'' true rest
  | cs => readLineString cs

/-! ## Numbers -/

/-- The digits without the underscores between them; `none` when an underscore stands elsewhere. -/
def ungroup? (isDigit : Char → Bool) : List Char → Option (List Char)
  | [] => none
  | [c] => if isDigit c then some [c] else none
  | c :: '_' :: rest => if isDigit c then (ungroup? isDigit rest).map (c :: ·) else none
  | c :: rest => if isDigit c then (ungroup? isDigit rest).map (c :: ·) else none

/-- Decimal digits without a needless zero in front. -/
def decimal? (cs : List Char) : Option (List Char) :=
  match ungroup? Char.isDigit cs with
  | some digits => if digits.length = 1 ∨ digits.head? ≠ some '0' then some digits else none
  | none => none

/-- The value of grouped digits of a base up to sixteen. -/
def basedValue? (base : Nat) (cs : List Char) : Option Nat :=
  let isDigit (c : Char) : Bool := ((Json.hexDigit? c).map (decide <| · < base)).getD false
  (ungroup? isDigit cs).map fun digits =>
    digits.foldl (fun n c => base * n + (Json.hexDigit? c).getD 0) 0

/-- An integer in the range of signed 64-bit words. -/
def integerDatum? (i : Int) : Option Datum :=
  if -9223372036854775808 ≤ i ∧ i ≤ 9223372036854775807 then some (.integer i) else none

/-- The integer of a token. -/
def integer? (token : List Char) : Option Datum :=
  match token with
  | '0' :: 'x' :: digits => (basedValue? 16 digits).bind fun n => integerDatum? n
  | '0' :: 'o' :: digits => (basedValue? 8 digits).bind fun n => integerDatum? n
  | '0' :: 'b' :: digits => (basedValue? 2 digits).bind fun n => integerDatum? n
  | token =>
    let (negative, digits) := spanSign token
    (decimal? digits).bind fun digits =>
      let n := digitsValue 0 digits
      integerDatum? (if negative then -(n : Int) else n)

/-- The exponent part of a float: nothing, or a sign and digits after the letter. -/
def exponent? : List Char → Option (List Char)
  | [] => some []
  | c :: rest =>
    if c = 'e' ∨ c = 'E' then
      let sign := rest.take (rest.length - (spanSign rest).2.length)
      (ungroup? Char.isDigit (spanSign rest).2).map fun digits => 'e' :: sign ++ digits
    else none

/-- A token split before its exponent. -/
def splitExponent (token : List Char) : List Char × List Char :=
  (token.takeWhile fun c => c != 'e' && c != 'E', token.dropWhile fun c => c != 'e' && c != 'E')

/-- The digits of a magnitude without grouping: a decimal, and a fraction or an exponent. -/
def floatDigits? (magnitude : List Char) : Option (List Char) :=
  let (mantissa, exponent) := splitExponent magnitude
  let whole := mantissa.takeWhile (· != '.')
  match mantissa.dropWhile (· != '.'), exponent with
  | [], [] => none
  | [], exponent =>
    match decimal? whole, exponent? exponent with
    | some whole, some exponent => some (whole ++ exponent)
    | _, _ => none
  | _ :: fraction, exponent =>
    match decimal? whole, ungroup? Char.isDigit fraction, exponent? exponent with
    | some whole, some fraction, some exponent => some (whole ++ '.' :: fraction ++ exponent)
    | _, _, _ => none

/-- The float of a token. -/
def float? (token : List Char) : Option Datum :=
  let (negative, magnitude) := spanSign token
  if magnitude = ['i', 'n', 'f'] then some (.float (.infinite negative))
  else if magnitude = ['n', 'a', 'n'] then some (.float .nan)
  else
    match (floatDigits? magnitude).bind Binary64.ofChars? with
    | some x =>
      if x = .infinite false ∧ negative = false then none
      else some (.float (if negative then x.neg else x))
    | none => none

/-- The value of a token that is no date. -/
def word? (token : List Char) : Option Datum :=
  if token = ['t', 'r', 'u', 'e'] then some (.bool true)
  else if token = ['f', 'a', 'l', 's', 'e'] then some (.bool false)
  else
    match integer? token with
    | some d => some d
    | none => float? token

/-! ## Dates -/

/-- A number of exactly `width` digits, and the text after it. -/
def digits? (width : Nat) (cs : List Char) : Option (Nat × List Char) :=
  let digits := cs.take width
  if digits.length = width ∧ digits.all Char.isDigit then
    some (digitsValue 0 digits, cs.drop width)
  else none

/-- The text after a character. -/
def after? (c : Char) : List Char → Option (List Char)
  | x :: rest => if x = c then some rest else none
  | [] => none

def isLeapYear (year : Nat) : Bool := year % 4 = 0 && (year % 100 != 0 || year % 400 = 0)

def daysInMonth (year month : Nat) : Nat :=
  if month = 2 then if isLeapYear year then 29 else 28
  else if month = 4 ∨ month = 6 ∨ month = 9 ∨ month = 11 then 30
  else 31

/-- The text after a date. -/
def afterDate? (cs : List Char) : Option (List Char) := do
  let (year, rest) ← digits? 4 cs
  let (month, rest) ← digits? 2 (← after? '-' rest)
  let (day, rest) ← digits? 2 (← after? '-' rest)
  if 1 ≤ month ∧ month ≤ 12 ∧ 1 ≤ day ∧ day ≤ daysInMonth year month then some rest else none

/-- The text after hours and minutes. -/
def afterMinutes? (cs : List Char) : Option (List Char) := do
  let (hour, rest) ← digits? 2 cs
  let (minute, rest) ← digits? 2 (← after? ':' rest)
  if hour ≤ 23 ∧ minute ≤ 59 then some rest else none

/-- The text after a time of day; a second may be a leap second. -/
def afterTime? (cs : List Char) : Option (List Char) := do
  let (second, rest) ← digits? 2 (← after? ':' (← afterMinutes? cs))
  if 60 < second then none
  else
    match rest with
    | '.' :: c :: more => if c.isDigit then some (more.dropWhile Char.isDigit) else none
    | '.' :: [] => none
    | rest => some rest

/-- The text after a zone, if there is one. -/
def afterZone? (cs : List Char) : Option (List Char) :=
  match cs with
  | 'Z' :: rest => some rest
  | 'z' :: rest => some rest
  | '+' :: rest => afterMinutes? rest
  | '-' :: rest => afterMinutes? rest
  | cs => some cs

/-- The text after the time that follows a date, if one does: a space begins one only before the
hours. -/
def afterDateTime? (cs : List Char) : Option (List Char) :=
  match cs with
  | c :: rest =>
    if c = 'T' ∨ c = 't' then (afterTime? rest).bind afterZone?
    else if c = ' ' ∧ (digits? 2 rest).isSome then (afterTime? rest).bind afterZone?
    else some cs
  | [] => some []

/-- Whether a text begins like a date or like a time. -/
def beginsDate (cs : List Char) : Bool :=
  ((digits? 4 cs).bind fun r => after? '-' r.2).isSome ||
    ((digits? 2 cs).bind fun r => after? ':' r.2).isSome

/-- Reads a date or a time. -/
def readDate (cs : List Char) : Option (Datum × List Char) :=
  let rest := if ((digits? 4 cs).bind fun r => after? '-' r.2).isSome
    then (afterDate? cs).bind afterDateTime? else afterTime? cs
  rest.map fun rest => (.date (String.ofList (cs.take (cs.length - rest.length))), rest)

/-! ## Scalars -/

/-- A character of numbers and words. -/
def isWordChar (c : Char) : Bool :=
  c.isAlphanum || c == '_' || c == '+' || c == '-' || c == '.'

/-- Reads a scalar from its first character. -/
def readScalar (cs : List Char) : Option (Datum × List Char) :=
  match cs with
  | '"' :: _ => (readString cs).map fun r => (.string (String.ofList r.1), r.2)
  | '\'' :: _ => (readString cs).map fun r => (.string (String.ofList r.1), r.2)
  | cs =>
    if beginsDate cs then readDate cs
    else (word? (cs.takeWhile isWordChar)).map fun d => (d, cs.dropWhile isWordChar)

end RobotCell.Toml
