import RobotCell.Program.Compiler
import RobotCell.Program.Splice

/-!
# RobotCell.Program.Document

The text of a program: the module with its data and routines, and the descriptor that names it.

A module lists tools, work objects and constants in the order given, then a main routine that
calls `rStart`, whose body is the compiled instructions.
-/

namespace RobotCell

/-! ## Modules -/

/-- The name that every rendered module declares. -/
def moduleName : String := "MainModule"

/-- The blocks of a module, each a list of texts. -/
structure ProgramModule where
  tools : List String := []
  wobjs : List String := []
  declarations : List String := []
  instructions : List String := []
  deriving DecidableEq

namespace ProgramModule

/-- The document of a module. -/
def render (m : ProgramModule) : String :=
  "MODULE " ++ moduleName ++ "\n\t! Program data\n" ++ String.join m.tools ++ "\n" ++
    String.join m.wobjs ++ "\n\n\t! Target data" ++ String.join m.declarations ++
    "\n\n\t! Routine\n\tPROC main()\n\t\tConfL\\Off;\n\t\tSingArea\\Wrist;\n\t\trStart;\n" ++
    "\t\tRETURN;\n\tENDPROC\n\n\tPROC rStart()\n\n\t\t! instructions" ++
    String.join m.instructions ++ "\n\t\tRETURN;\n\tENDPROC\n\nENDMODULE\n"

def addTool (m : ProgramModule) (text : String) : ProgramModule :=
  { m with tools := m.tools ++ [text] }

def addWobj (m : ProgramModule) (text : String) : ProgramModule :=
  { m with wobjs := m.wobjs ++ [text] }

def addDeclaration (m : ProgramModule) (text : String) : ProgramModule :=
  { m with declarations := m.declarations ++ [text] }

def addInstruction (m : ProgramModule) (text : String) : ProgramModule :=
  { m with instructions := m.instructions ++ [text] }

/-- A compiled set after what the module holds. -/
def pushSet (m : ProgramModule) (s : CompiledSet) : ProgramModule :=
  { m with
    declarations := m.declarations ++ s.declarationTexts
    instructions := m.instructions ++ s.instructionTexts }

end ProgramModule

/-- Inserts raw statement bodies into the lines of a routine. -/
def insertStatements (instructions bodies : List String) (indices : List Nat) :
    Except SpliceFault (List String) :=
  insertAtIndices instructions (bodies.map routineLine) indices

/-- Inserts raw statement bodies into the routine of a module. -/
def ProgramModule.insert (m : ProgramModule) (bodies : List String) (indices : List Nat) :
    Except SpliceFault ProgramModule :=
  match insertStatements m.instructions bodies indices with
  | .error fault => .error fault
  | .ok instructions => .ok { m with instructions }

/-! ## Descriptors -/

/-- The descriptor entry of a module file. -/
def descriptorEntry (file : String) : String := "\t<Module>" ++ file ++ "</Module>\n"

/-- The program descriptor of a list of module files. -/
def programDescriptor (files : List String) : String :=
  "<?xml version=\"1.0\" encoding=\"ISO-8859-1\" ?>\n<Program>\n" ++
    String.join (files.map descriptorEntry) ++ "</Program>\n"

end RobotCell
