/-!
# RobotCell.Text.Bytes

Texts measured in the bytes that their characters take in UTF-8.

`utf8Length` counts them, and `fitBytes` is the start of a text that a number of bytes has room
for, cut between two characters.
-/

namespace RobotCell

/-- The number of bytes of the characters in UTF-8. -/
def utf8Length : List Char → Nat
  | [] => 0
  | c :: cs => c.utf8Size + utf8Length cs

/-- The characters that fit into a number of bytes. -/
def fitBytes : Nat → List Char → List Char
  | _, [] => []
  | room, c :: cs => if c.utf8Size ≤ room then c :: fitBytes (room - c.utf8Size) cs else []

end RobotCell
