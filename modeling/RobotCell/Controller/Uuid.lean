import RobotCell.Data.Json

/-!
# RobotCell.Controller.Uuid

Universally unique identifiers, as they name controller systems.

They are read hyphenated, as plain digits, in braces, or after `urn:uuid:`, all letters in any case,
and written hyphenated in lower case.
-/

namespace RobotCell

/-- A 128-bit identifier. -/
structure Uuid where
  value : Nat := 0
  deriving DecidableEq

namespace Uuid

/-- The value of hexadecimal digits, most significant first. -/
def hexValue? (digits : List Char) : Option Nat :=
  digits.foldl (fun acc c =>
    match acc, Json.hexDigit? c with
    | some n, some d => some (16 * n + d)
    | _, _ => none) (some 0)

/-- The hexadecimal digits of a number, to a width. -/
def hexDigits : Nat → Nat → List Char
  | 0, _ => []
  | width + 1, n => hexDigits width (n / 16) ++ [Json.hexChar (n % 16)]

/-- The digits in groups of the given lengths, apart by hyphens. -/
def splitGroups : List Nat → List Char → Option (List Char)
  | [], [] => some []
  | [], _ => none
  | n :: ns, cs =>
    let group := cs.take n
    if group.length < n ∨ group.contains '-' then none
    else
      match ns, cs.drop n with
      | [], [] => some group
      | [], _ => none
      | ns, '-' :: rest => (splitGroups ns rest).map (group ++ ·)
      | _, _ => none

def groupLengths : List Nat := [8, 4, 4, 4, 12]

def ofHyphenated? (cs : List Char) : Option Uuid :=
  ((splitGroups groupLengths cs).bind hexValue?).map fun value => ⟨value⟩

/-- What stands before an identifier that is written as a name of a resource. -/
def resourceMark : List Char := ['u', 'r', 'n', ':', 'u', 'u', 'i', 'd', ':']

/-- Reads an identifier in one of its four forms. -/
def ofString? (s : String) : Option Uuid :=
  let cs := s.toList
  if cs.length = 32 then (hexValue? cs).map fun value => ⟨value⟩
  else if cs.length = 36 then ofHyphenated? cs
  else
    match cs with
    | '\x7b' :: rest => if rest.getLast? = some '\x7d' then ofHyphenated? rest.dropLast else none
    | cs =>
      let (mark, rest) := cs.splitAt resourceMark.length
      if lowerAscii mark = resourceMark then ofHyphenated? rest else none

/-- The hyphenated text of an identifier. -/
def text (u : Uuid) : String :=
  let digits := hexDigits 32 u.value
  let group (start len : Nat) := String.ofList ((digits.drop start).take len)
  "-".intercalate [group 0 8, group 8 4, group 12 4, group 16 4, group 20 12]

end Uuid

end RobotCell
