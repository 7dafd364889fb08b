import RobotCell.Text.Printable

/-!
# RobotCell.Text.Escape

Texts in quotes for a reader at a terminal: what does not show on its own is written as an escape.

```
escape = "\0" | "\t" | "\r" | "\n" | "\"" | "\\" | "\u{" hexadecimal digits "}"
```
-/

namespace RobotCell

/-- The code point of a character in braces. -/
def codePointEscape (c : Char) : List Char :=
  ['\\', 'u', '\x7b'] ++ Nat.toDigits 16 c.toNat ++ ['\x7d']

/-- A character between quotes. -/
def escapeVisible (c : Char) : List Char :=
  if c = '\x00' then ['\\', '0']
  else if c = '\t' then ['\\', 't']
  else if c = '\r' then ['\\', 'r']
  else if c = '\n' then ['\\', 'n']
  else if c = '"' then ['\\', '"']
  else if c = '\\' then ['\\', '\\']
  else if isPrintable c then [c]
  else codePointEscape c

/-- A text in quotes. -/
def quoteVisible (s : String) : String :=
  "\"" ++ String.ofList (s.toList.flatMap escapeVisible) ++ "\""

end RobotCell
