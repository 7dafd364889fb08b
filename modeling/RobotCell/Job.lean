import RobotCell.Program.Document
import RobotCell.Program.Records

/-!
# RobotCell.Job

A program as one description: tools, work objects, blocks of moves, and insertions.

`Job.compile` compiles the blocks in their order, collects them in a module, and then inserts
statements into the routine, each insertion counting positions in what the one before it left.
-/

namespace RobotCell

/-- A frame with a name; a work object has no use for the mass. -/
structure NamedFrame where
  name : String
  frame : Pose
  mass : Binary64 := 1
  deriving DecidableEq

/-- What is compiled to one set. -/
inductive Block where
  | moveL (targets : List Pose) (moves : MoveList)
  | moveJ (targets : List Pose) (moves : MoveList)
  | moveAbsJ (targets : List JointPose) (moves : MoveList)
  | moveC (via targets : List Pose) (moves : MoveList)
  | custom (statements : List String)
  deriving DecidableEq

/-- The set of a block. -/
def Block.compile (c : Compiler) : Block → Except Failure CompiledSet
  | .moveL targets moves => c.moveL targets moves
  | .moveJ targets moves => c.moveJ targets moves
  | .moveAbsJ targets moves => c.moveAbsJ targets moves
  | .moveC via targets moves => c.moveC via targets moves
  | .custom statements => .ok (Compiler.custom statements)

/-- Statements and the positions of the routine that they go to. -/
structure Insertion where
  positions : List Nat
  statements : List String
  deriving DecidableEq

/-- The description of a program. -/
structure Job where
  tools : List NamedFrame := []
  wobjs : List NamedFrame := []
  blocks : List Block := []
  insertions : List Insertion := []
  deriving DecidableEq

/-- Why a job gives no program. -/
inductive JobFault where
  | block (index : Nat) (cause : Failure)
  | insertion (cause : Failure)
  | overflow
  deriving DecidableEq

namespace Job

/-- The sets of blocks with indices from `n`, or the fault of the first block that has one. -/
def compileBlocks (c : Compiler) (n : Nat) : List Block → Except JobFault (List CompiledSet)
  | [] => .ok []
  | block :: rest =>
    match block.compile c with
    | .error cause => .error (.block n cause)
    | .ok set =>
      match compileBlocks c (n + 1) rest with
      | .error fault => .error fault
      | .ok sets => .ok (set :: sets)

/-- A module after an insertion. -/
def insert (m : ProgramModule) (i : Insertion) : Except JobFault ProgramModule :=
  match m.insert i.statements i.positions with
  | .error (.failure cause) => .error (.insertion cause)
  | .error .overflow => .error .overflow
  | .ok m => .ok m

/-- A module after insertions in their order. -/
def insertAll (m : ProgramModule) : List Insertion → Except JobFault ProgramModule
  | [] => .ok m
  | i :: rest =>
    match insert m i with
    | .error fault => .error fault
    | .ok m => insertAll m rest

/-- The module of a job and its compiled sets, before anything is inserted. -/
def assemble (job : Job) (sets : List CompiledSet) : ProgramModule :=
  sets.foldl ProgramModule.pushSet
    { tools := job.tools.map fun t => (toolData t.name t.frame t.mass).text
      wobjs := job.wobjs.map fun w => (wobjData w.name w.frame).text }

/-- The module of a job, and the set of each of its blocks. -/
def compile (c : Compiler) (job : Job) : Except JobFault (ProgramModule × List CompiledSet) :=
  match compileBlocks c 0 job.blocks with
  | .error fault => .error fault
  | .ok sets =>
    match insertAll (job.assemble sets) job.insertions with
    | .error fault => .error fault
    | .ok m => .ok (m, sets)

end Job

end RobotCell
