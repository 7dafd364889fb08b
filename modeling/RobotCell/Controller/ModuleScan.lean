import RobotCell.Controller.Transport
import RobotCell.Text.Blank
import RobotCell.Text.Word

/-!
# RobotCell.Controller.ModuleScan

The name and the declared data of a module, found in its text.

```
header       = line start, blank*, "MODULE", blank+, word
declaration  = line start, blank*, [("LOCAL" | "TASK"), blank+], ("CONST" | "VAR" | "PERS"),
               blank+, word, blank+, word, blank*, [":=", blank*, value], ";", blank*, line end
```

Blanks include line feeds, so that a declaration may run over lines, but a value ends on the line
it begins on: at the first semicolon with nothing but blanks up to a line end.  The first word of
a declaration is the type and the second the name.  After a declaration the scan goes on with the
lines below it, and a line that starts none is passed over.
-/

namespace RobotCell.ModuleScan

/-! ## Pieces -/

/-- The text after a keyword that it starts with. -/
def afterKeyword? (keyword : String) (cs : List Char) : Option (List Char) :=
  keyword.toList.isPrefixOf? cs

/-- The text after the first of the keywords that it starts with. -/
def afterKeywords? : List String → List Char → Option (List Char)
  | [], _ => none
  | keyword :: rest, cs =>
    match afterKeyword? keyword cs with
    | some r => some r
    | none => afterKeywords? rest cs

/-- The text after one blank or more. -/
def afterBlanks? : List Char → Option (List Char)
  | c :: rest => if isBlank c then some (trimStart rest) else none
  | [] => none

/-- The word that a text starts with, and the text after it. -/
def word? (cs : List Char) : Option (List Char × List Char) :=
  if (cs.takeWhile isWord).isEmpty then none
  else some (cs.takeWhile isWord, cs.dropWhile isWord)

/-- The text after blanks that reach a line end or the end of the text. -/
def afterLineEnd? (cs : List Char) : Option (List Char) :=
  let rest := trimStart cs
  if rest.isEmpty || (cs.takeWhile isBlank).contains '\n' then some rest else none

/-- The value up to the semicolon that ends a line, and the text below that line. -/
def value? : List Char → Option (List Char × List Char)
  | [] => none
  | c :: rest =>
    if c = '\n' then none
    else
      let longer := (value? rest).map fun r => (c :: r.1, r.2)
      if c = ';' then
        match afterLineEnd? rest with
        | some below => some ([], below)
        | none => longer
      else longer

/-! ## Declarations -/

/-- A declared item before its module is known. -/
structure Declared where
  dataType : String
  name : String
  value : String
  deriving DecidableEq

/-- The text after an optional scope and the storage class. -/
def afterStorage? (cs : List Char) : Option (List Char) :=
  let storage := ["CONST", "VAR", "PERS"]
  match (afterKeywords? ["LOCAL", "TASK"] cs).bind afterBlanks? with
  | some rest => afterKeywords? storage rest
  | none => afterKeywords? storage cs

/-- The value part of a declaration and the text below it. -/
def initializer? (cs : List Char) : Option (List Char × List Char) :=
  match cs with
  | ':' :: '=' :: rest => value? (trimStart rest)
  | ';' :: rest => (afterLineEnd? rest).map fun below => ([], below)
  | _ => none

/-- The declaration that starts at a line start, and the text below it. -/
def declaration? (line : List Char) : Option (Declared × List Char) := do
  let rest ← afterStorage? (trimStart line)
  let (dataType, rest) ← word? (← afterBlanks? rest)
  let (name, rest) ← word? (← afterBlanks? rest)
  let (value, below) ← initializer? (trimStart rest)
  return (⟨String.ofList dataType, String.ofList name, String.ofList (trim value)⟩, below)

/-- The text below the first line, if there is a line end. -/
def nextLine? (cs : List Char) : Option (List Char) :=
  match cs.dropWhile (· != '\n') with
  | _ :: rest => some rest
  | [] => none

/-- The declarations from a line start on; the first argument bounds the number of lines. -/
def declarations : Nat → List Char → List Declared
  | 0, _ => []
  | bound + 1, cs =>
    match declaration? cs with
    | some (d, below) => d :: declarations bound below
    | none =>
      match nextLine? cs with
      | some rest => declarations bound rest
      | none => []

/-! ## Modules -/

/-- The name in a header that starts at a line start. -/
def headerName? (line : List Char) : Option String := do
  let rest ← afterBlanks? (← afterKeyword? "MODULE" (trimStart line))
  let (name, _) ← word? rest
  return String.ofList name

/-- The first header from a line start on; the first argument bounds the number of lines. -/
def moduleName? : Nat → List Char → Option String
  | 0, _ => none
  | bound + 1, cs =>
    match headerName? cs with
    | some name => some name
    | none => (nextLine? cs).bind (moduleName? bound)

/-- Whether a text contains another. -/
def contains (part : List Char) : List Char → Bool
  | [] => part.isEmpty
  | c :: rest => part.isPrefixOf (c :: rest) || contains part rest

end RobotCell.ModuleScan

namespace RobotCell

/-- A module as the controller holds it. -/
structure LoadedModule where
  name : String
  items : List DataItem
  deriving DecidableEq

/-- The first item of a name. -/
def LoadedModule.item? (m : LoadedModule) (name : String) : Option DataItem :=
  m.items.find? (·.name == name)

/-- The module that a text holds. -/
def LoadedModule.scan (text : String) : Except LoadDefect LoadedModule :=
  let cs := text.toList
  match ModuleScan.moduleName? (cs.length + 1) cs with
  | none => .error .noHeader
  | some name =>
    if ModuleScan.contains "ENDMODULE".toList cs then
      .ok ⟨name, (ModuleScan.declarations (cs.length + 1) cs).map fun d =>
        ⟨name, d.name, d.dataType, d.value⟩⟩
    else .error (.notTerminated name)

end RobotCell
