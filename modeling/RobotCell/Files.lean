import RobotCell.Failure

/-!
# RobotCell.Files

Local files: a directory tree and the working directory in it.

The parts of a path are apart by slashes.  A path that starts with a slash leads from the root of
the tree, any other from the working directory.  Empty parts and `.` stand for the directory they
are in, `..` for the one above, which for the root is the root; a path that ends in a slash names a
directory.  A path has a greatest length, and so has each name in it; neither holds a NUL.
-/

namespace RobotCell

/-! ## Paths -/

/-- The parts of a path that are walked, a final slash being one more step. -/
def pathSteps (path : String) : List String :=
  let parts := path.splitOn "/"
  parts.filter (· != "") ++ (if parts.getLast? = some "" then ["."] else [])

/-- The part of a path that names what it leads to, when its last step is a name. -/
def fileName? (path : String) : Option String :=
  match ((path.splitOn "/").filter fun part => part != "" && part != ".").getLast? with
  | some name => if name = ".." then none else some name
  | none => none

/-- A path inside a directory; one that starts at the root stays as it is. -/
def joinPath (dir path : String) : String :=
  if dir = "" ∨ path.startsWith "/" then path
  else if dir.endsWith "/" then dir ++ path
  else dir ++ "/" ++ path

/-! ## Trees -/

/-- What stands at a place of the tree. -/
inductive FileNode where
  | directory
  | text (content : String)
  /-- A file whose bytes are no text. -/
  | binary
  deriving DecidableEq

/-- Why a path leads nowhere. -/
inductive PathFault where
  | missing
  /-- The text is no path, or a part of it before the last is a file, or a part is a name that no
  directory can hold. -/
  | blocked
  deriving DecidableEq

/-- The nodes of a tree by the names that lead to them from the root, and the place of the working
directory. -/
structure Files where
  nodes : List (List String × FileNode) := []
  working : List String := []

namespace Files

/-- The node at a place; the working directory and those above it are directories. -/
def node? (files : Files) (place : List String) : Option FileNode :=
  if place <+: files.working then some .directory else List.lookup place files.nodes

/-- The tree with one node set. -/
def put (files : Files) (place : List String) (node : FileNode) : Files :=
  { files with nodes := (place, node) :: files.nodes.filter fun entry => entry.1 != place }

/-- The tree without one node. -/
def erase (files : Files) (place : List String) : Files :=
  { files with nodes := files.nodes.filter fun entry => entry.1 != place }

/-- A text that can be a path, whatever it leads to. -/
def isPath (path : String) : Bool :=
  path.utf8ByteSize < 4096 && !path.toList.contains '\x00'

/-- A name that a directory can hold. -/
def isName (name : String) : Bool := name.utf8ByteSize ≤ 255

/-- A path that leads from the root, wherever the working directory is. -/
def isAbsolute (path : String) : Bool := path.startsWith "/"

/-- The place where a path starts. -/
def start (files : Files) (path : String) : List String :=
  if isAbsolute path then [] else files.working

/-- One step from a place, which must be a directory. -/
def step (files : Files) (dir : List String) (name : String) : Except PathFault (List String) :=
  match files.node? dir with
  | some .directory =>
    if name = "." then .ok dir
    else if name = ".." then .ok dir.dropLast
    else if isName name then
      match files.node? (dir ++ [name]) with
      | some _ => .ok (dir ++ [name])
      | none => .error .missing
    else .error .blocked
  | some _ => .error .blocked
  | none => .error .missing

/-- The place that steps lead to. -/
def walk (files : Files) (place : List String) : List String → Except PathFault (List String)
  | [] => .ok place
  | name :: rest =>
    match files.step place name with
    | .error fault => .error fault
    | .ok place => files.walk place rest

/-- The place and node that a path leads to from a place. -/
def resolveFrom (files : Files) (start : List String) (path : String) :
    Except PathFault (List String × FileNode) :=
  if path = "" then .error .missing
  else if !isPath path then .error .blocked
  else
    match files.walk start (pathSteps path) with
    | .error fault => .error fault
    | .ok place =>
      match files.node? place with
      | some node => .ok (place, node)
      | none => .error .missing

/-- The place and node that a path leads to. -/
def resolve (files : Files) (path : String) : Except PathFault (List String × FileNode) :=
  files.resolveFrom (files.start path) path

/-! ## Reading and writing -/

/-- The file that a path leads to from a place; a directory is none. -/
def fileFrom? (files : Files) (start : List String) (path : String) : Option FileNode :=
  match files.resolveFrom start path with
  | .ok (_, .directory) => none
  | .ok (_, node) => some node
  | .error _ => none

/-- The file that a path leads to; a directory is none. -/
def file? (files : Files) (path : String) : Option FileNode :=
  files.fileFrom? (files.start path) path

/-- A place and those above it, the nearest first. -/
def upwards (place : List String) : List (List String) :=
  (List.range (place.length + 1)).reverse.map place.take

/-- The file that a path leads to from the working directory, or else from the nearest directory
above it that has one. -/
def fileAbove? (files : Files) (path : String) : Option FileNode :=
  if isAbsolute path then files.file? path
  else (upwards files.working).findSome? (files.fileFrom? · path)

/-- A local path must exist; any other trouble on the way is an input or output failure. -/
def require (files : Files) (path : String) : Except Failure Unit :=
  match files.resolve path with
  | .ok _ => .ok ()
  | .error .missing => .error (.fileNotFound path)
  | .error .blocked => .error .io

/-- The text of a file. -/
def read (files : Files) (path : String) : Except Failure String :=
  match files.resolve path with
  | .ok (_, .text content) => .ok content
  | .ok _ => .error .io
  | .error .missing => .error (.fileNotFound path)
  | .error .blocked => .error .io

/-- The text of a file, every failure being one of input and output. -/
def readAny (files : Files) (path : String) : Except Failure String :=
  match files.read path with
  | .ok content => .ok content
  | .error _ => .error .io

/-- The tree after writing a text file into an existing directory. -/
def write (files : Files) (path content : String) : Except Failure Files :=
  let steps := pathSteps path
  match steps.getLast? with
  | none => .error .io
  | some name =>
    if name = "." ∨ name = ".." ∨ !isPath path ∨ !isName name then .error .io
    else
      match files.walk (files.start path) steps.dropLast with
      | .error _ => .error .io
      | .ok dir =>
        match files.node? dir, files.node? (dir ++ [name]) with
        | some .directory, some .directory => .error .io
        | some .directory, _ => .ok (files.put (dir ++ [name]) (.text content))
        | _, _ => .error .io

/-- The tree after removing a file. -/
def remove (files : Files) (path : String) : Except Failure Files :=
  match files.resolve path with
  | .ok (place, .text _) => .ok (files.erase place)
  | .ok (place, .binary) => .ok (files.erase place)
  | _ => .error .io

/-- The tree with a directory at a place, unless something stands there. -/
def makeDirectory (files : Files) (place : List String) : Files :=
  if (files.node? place).isSome then files else files.put place .directory

/-- The place that steps lead to from a place, and the tree with the directories they pass. -/
def makeWay (files : Files) (place : List String) : List String → Files × List String
  | [] => (files, place)
  | name :: rest =>
    let files := files.makeDirectory place
    if name = "." then files.makeWay place rest
    else if name = ".." then files.makeWay place.dropLast rest
    else files.makeWay (place ++ [name]) rest

/-- The tree with a node at a path, and with the directories that lead to it. -/
def place (files : Files) (path : String) (node : FileNode) : Files :=
  let (files, place) := files.makeWay (files.start path) (pathSteps path)
  files.put place node

end Files

end RobotCell
