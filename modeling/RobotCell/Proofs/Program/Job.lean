import Mathlib.Algebra.Ring.Nat
import Mathlib.Data.List.Forall2
import Mathlib.Data.List.GetD
import RobotCell.Job
import RobotCell.Proofs.Program.Insertion

/-!
# RobotCell.Proofs.Program.Job

What a job compiles to.

The blocks are compiled in their order up to the first that fails (`compileBlocks_of_firstFault`),
and their sets are put one after the other into a module (`assemble_eq`).  The insertions are a
chain of splices (`Inserted`), each into the routine that the one before it left; they touch nothing
else of the module (`insertAll_of_inserted`).
-/

namespace RobotCell

/-! ## Blocks -/

/-- The sets that blocks compile to, one for each. -/
def Block.CompileTo (c : Compiler) (blocks : List Block) (sets : List CompiledSet) : Prop :=
  List.Forall₂ (fun block set => block.compile c = .ok set) blocks sets

/-- The set that a block makes: that of its moves, or a line for each of its statements. -/
def Block.Makes (c : Compiler) (set : CompiledSet) : Block → Prop
  | .moveL targets m => (CompileCall.moveL targets m).Aligned c set
  | .moveJ targets m => (CompileCall.moveJ targets m).Aligned c set
  | .moveAbsJ targets m => (CompileCall.moveAbsJ targets m).Aligned c set
  | .moveC via targets m => (CompileCall.moveC via targets m).Aligned c set
  | .custom statements => set = {
      declarations := []
      instructions := statements.mapIdx fun i body =>
        { index := i, opcode := "Custom", speed := none, zone := none
          text := "\n\t\t" ++ body ++ ";" } }

/-- A block that compiles makes its set. -/
theorem Block.makes_of_compile {c : Compiler} {block : Block} {set : CompiledSet}
    (h : block.compile c = .ok set) : block.Makes c set := by
  cases block with
  | moveL targets m => exact Compiler.moveL_aligned h
  | moveJ targets m => exact Compiler.moveJ_aligned h
  | moveAbsJ targets m => exact Compiler.moveAbsJ_aligned h
  | moveC via targets m => exact Compiler.moveC_aligned h
  | custom statements =>
      obtain rfl := Except.ok.inj h
      refine congrArg (CompiledSet.mk []) (List.ext_getElem? fun i => ?_)
      simp only [List.getElem?_mapIdx, List.getElem?_map, Option.map_map]
      rfl

/-- The indices of the set of a block are positions in it. -/
theorem Block.Makes.index_lt {c : Compiler} {block : Block} {set : CompiledSet}
    (h : block.Makes c set) :
    (∀ d ∈ set.declarations, d.index < set.instructions.length) ∧
      ∀ s ∈ set.instructions, s.index < set.instructions.length := by
  cases block with
  | moveL | moveJ | moveAbsJ | moveC => exact CompileCall.Aligned.index_lt h
  | custom statements =>
      obtain rfl : set = _ := h
      refine ⟨by simp, fun s hs => ?_⟩
      obtain ⟨i, hi, rfl⟩ := List.mem_mapIdx.mp hs
      simpa using hi

/-- The first block that does not compile, by its place, and why. -/
structure Block.FirstFault (c : Compiler) (blocks : List Block) (index : Nat) (cause : Failure) :
    Prop where
  fails : ∃ block, blocks[index]? = some block ∧ block.compile c = .error cause
  before : ∀ block ∈ blocks.take index, ∃ set, block.compile c = .ok set

/-! ## Insertions -/

/-- Lines with the statements of an insertion between them: a line for each of its positions, and
once the statements run out, the first of them again. -/
def Insertion.place (lines : List String) (i : Insertion) : List String :=
  placeAll 0 lines (i.positions.mapIdx fun k position =>
    (position, "\n\t\t" ++ i.statements.getD k (i.statements.headD "") ++ ";"))

/-- An insertion that succeeds gives the lines with its statements in their places. -/
theorem Insertion.place_of_insertStatements {lines next : List String} {i : Insertion}
    (h : insertStatements lines i.statements i.positions = .ok next) : next = i.place lines := by
  obtain ⟨positions, statements⟩ := i
  cases statements with
  | nil =>
      cases positions with
      | nil =>
          obtain rfl := Except.ok.inj h
          rfl
      | cons position positions => cases h
  | cons first rest =>
      have hfits := positionsFit_of_ok h
      have hplaced := insertAtIndices_of_fits lines (rest.map routineLine) (routineLine first) hfits
      obtain rfl := Except.ok.inj (h.symm.trans hplaced)
      rw [place, RobotCell.insertions, ← List.map_cons]
      simp only [List.getD_map]
      rfl

namespace Job

variable {c : Compiler}

/-- Blocks that compile one by one compile together, from whatever number the count starts. -/
theorem compileBlocks_of_compileTo {blocks : List Block} {sets : List CompiledSet}
    (h : Block.CompileTo c blocks sets) (n : Nat) : compileBlocks c n blocks = .ok sets := by
  induction h generalizing n with
  | nil => rfl
  | cons hset _ ih =>
      rw [compileBlocks, hset]
      simp only [ih (n + 1)]

/-- The first block that fails gives its number with its fault. -/
theorem compileBlocks_of_firstFault {blocks : List Block} {index : Nat} {cause : Failure}
    (h : Block.FirstFault c blocks index cause) (n : Nat) :
    compileBlocks c n blocks = .error (.block (n + index) cause) := by
  induction blocks generalizing index n with
  | nil =>
      obtain ⟨block, hblock, -⟩ := h.fails
      simp at hblock
  | cons first rest ih =>
      obtain ⟨block, hblock, hcause⟩ := h.fails
      cases index with
      | zero =>
          obtain rfl : first = block := by simpa using hblock
          rw [compileBlocks, hcause]
          rfl
      | succ index =>
          obtain ⟨set, hset⟩ := h.before first (by simp)
          have hrest : Block.FirstFault c rest index cause :=
            ⟨⟨block, by simpa using hblock, hcause⟩, fun other hother =>
              h.before other (by simp [hother])⟩
          rw [compileBlocks, hset]
          simp only [ih hrest (n + 1), Nat.add_right_comm n 1 index, Nat.add_assoc]

/-- All blocks compile, or there is a first one that does not. -/
theorem compileTo_or_firstFault (c : Compiler) (blocks : List Block) :
    (∃ sets, Block.CompileTo c blocks sets) ∨
      ∃ index cause, Block.FirstFault c blocks index cause := by
  induction blocks with
  | nil => exact .inl ⟨[], .nil⟩
  | cons first rest ih =>
      cases hfirst : first.compile c with
      | error cause => exact .inr ⟨0, cause, ⟨first, rfl, hfirst⟩, by simp⟩
      | ok set =>
          rcases ih with ⟨sets, hsets⟩ | ⟨index, cause, hfault⟩
          · exact .inl ⟨set :: sets, .cons hfirst hsets⟩
          · refine .inr ⟨index + 1, cause, by simpa using hfault.fails, ?_⟩
            simpa [hfirst] using hfault.before

/-! ## Modules -/

/-- The sets of a job add their declarations and instructions in their order. -/
theorem foldl_pushSet (m : ProgramModule) (sets : List CompiledSet) :
    sets.foldl ProgramModule.pushSet m = { m with
      declarations := m.declarations ++ sets.flatMap CompiledSet.declarationTexts
      instructions := m.instructions ++ sets.flatMap CompiledSet.instructionTexts } := by
  induction sets generalizing m with
  | nil => simp
  | cons set sets ih => simp [ih, ProgramModule.pushSet, List.append_assoc]

/-- The module of a job before its insertions, part by part. -/
theorem assemble_eq (job : Job) (sets : List CompiledSet) :
    job.assemble sets = {
      tools := job.tools.map fun t => (toolData t.name t.frame t.mass).text
      wobjs := job.wobjs.map fun w => (wobjData w.name w.frame).text
      declarations := sets.flatMap CompiledSet.declarationTexts
      instructions := sets.flatMap CompiledSet.instructionTexts } :=
  foldl_pushSet _ sets

/-- There is one line for each instruction. -/
theorem length_instructionTexts (set : CompiledSet) :
    set.instructionTexts.length = set.instructions.length :=
  List.length_map _

/-! ## Routines -/

/-- Insertions one after the other, each into the lines that the one before it left. -/
inductive Inserted : List String → List Insertion → List String → Prop
  | nil {lines : List String} : Inserted lines [] lines
  | cons {lines next last : List String} {i : Insertion} {rest : List Insertion} :
      insertStatements lines i.statements i.positions = .ok next → Inserted next rest last →
        Inserted lines (i :: rest) last

/-- The first insertion without a result, after those before it. -/
inductive InsertFault : List String → List Insertion → SpliceFault → Prop
  | here {lines : List String} {i : Insertion} {rest : List Insertion} {fault : SpliceFault} :
      insertStatements lines i.statements i.positions = .error fault →
        InsertFault lines (i :: rest) fault
  | later {lines next : List String} {i : Insertion} {rest : List Insertion}
      {fault : SpliceFault} :
      insertStatements lines i.statements i.positions = .ok next → InsertFault next rest fault →
        InsertFault lines (i :: rest) fault

/-- What a job without a result of an insertion ends with. -/
def faultOfSplice : SpliceFault → JobFault
  | .failure cause => .insertion cause
  | .overflow => .overflow

/-- Insertions that succeed one after another change the instructions and nothing else. -/
theorem insertAll_of_inserted {m : ProgramModule} {insertions : List Insertion}
    {lines : List String} (h : Inserted m.instructions insertions lines) :
    insertAll m insertions = .ok { m with instructions := lines } := by
  generalize hstart : m.instructions = start at h
  induction h generalizing m with
  | nil =>
      subst hstart
      rfl
  | @cons start next last i rest hnext _ ih =>
      subst hstart
      have hinsert : insert m i = .ok { m with instructions := next } := by
        rw [insert, ProgramModule.insert, hnext]
      rw [insertAll, hinsert]
      exact ih rfl

/-- The first insertion that fails is the fault of all. -/
theorem insertAll_of_fault {m : ProgramModule} {insertions : List Insertion} {fault : SpliceFault}
    (h : InsertFault m.instructions insertions fault) :
    insertAll m insertions = .error (faultOfSplice fault) := by
  generalize hstart : m.instructions = start at h
  induction h generalizing m with
  | @here start i rest fault hfault =>
      subst hstart
      have hinsert : insert m i = .error (faultOfSplice fault) := by
        rw [insert, ProgramModule.insert, hfault]
        cases fault <;> rfl
      rw [insertAll, hinsert]
  | @later start next i rest fault hnext _ ih =>
      subst hstart
      have hinsert : insert m i = .ok { m with instructions := next } := by
        rw [insert, ProgramModule.insert, hnext]
      rw [insertAll, hinsert]
      exact ih rfl

/-- Insertions succeed one after another, or one of them is the first to fail. -/
theorem inserted_or_fault (lines : List String) (insertions : List Insertion) :
    (∃ last, Inserted lines insertions last) ∨ ∃ fault, InsertFault lines insertions fault := by
  induction insertions generalizing lines with
  | nil => exact .inl ⟨lines, .nil⟩
  | cons i rest ih =>
      cases hnext : insertStatements lines i.statements i.positions with
      | error fault => exact .inr ⟨fault, .here hnext⟩
      | ok next =>
          rcases ih next with ⟨last, hlast⟩ | ⟨fault, hfault⟩
          · exact .inl ⟨last, .cons hnext hlast⟩
          · exact .inr ⟨fault, .later hnext hfault⟩

/-- An insertion makes the routine longer by its number of positions. -/
theorem length_insertStatements {lines bodies next : List String} {positions : List Nat}
    (h : insertStatements lines bodies positions = .ok next) :
    next.length = lines.length + positions.length := by
  cases bodies with
  | nil =>
      cases positions with
      | nil =>
          obtain rfl := Except.ok.inj h
          rfl
      | cons position positions => cases h
  | cons body bodies =>
      rw [insertStatements, List.map_cons] at h
      rw [insertAtIndices_of_fits lines _ _ (positionsFit_of_ok h)] at h
      obtain rfl := Except.ok.inj h
      rw [length_placeAll, RobotCell.insertions, List.length_mapIdx]

/-- Each insertion places its lines in what the one before it left. -/
theorem Inserted.eq_foldl {lines last : List String} {insertions : List Insertion}
    (h : Inserted lines insertions last) : last = insertions.foldl Insertion.place lines := by
  induction h with
  | nil => rfl
  | cons hnext _ ih => rw [ih, List.foldl_cons, Insertion.place_of_insertStatements hnext]

/-- A routine grows by one line for each position of its insertions. -/
theorem Inserted.length_eq {lines last : List String} {insertions : List Insertion}
    (h : Inserted lines insertions last) :
    last.length = lines.length + (insertions.map (·.positions.length)).sum := by
  induction h with
  | nil => rfl
  | cons hnext _ ih =>
      rw [ih, length_insertStatements hnext, List.map_cons, List.sum_cons, Nat.add_assoc]

/-! ## Results -/

/-- The module of a job and the sets of its blocks: the blocks compile to the sets, and the routine
has their lines with the insertions of the job. -/
structure Yields (c : Compiler) (job : Job) (m : ProgramModule) (sets : List CompiledSet) :
    Prop where
  blocks : Block.CompileTo c job.blocks sets
  tools : m.tools = job.tools.map fun t => (toolData t.name t.frame t.mass).text
  wobjs : m.wobjs = job.wobjs.map fun w => (wobjData w.name w.frame).text
  declarations : m.declarations = sets.flatMap CompiledSet.declarationTexts
  routine : Inserted (sets.flatMap CompiledSet.instructionTexts) job.insertions m.instructions

/-- Why a job has no module: the first block that does not compile, or else the first insertion
without a result. -/
inductive Fails (c : Compiler) (job : Job) : JobFault → Prop
  | block {index : Nat} {cause : Failure} :
      Block.FirstFault c job.blocks index cause → Fails c job (.block index cause)
  | insertion {sets : List CompiledSet} {fault : SpliceFault} :
      Block.CompileTo c job.blocks sets →
        InsertFault (sets.flatMap CompiledSet.instructionTexts) job.insertions fault →
          Fails c job (faultOfSplice fault)

variable {job : Job}

/-- A job of which each step succeeds compiles. -/
theorem Yields.compile_eq {m : ProgramModule} {sets : List CompiledSet}
    (h : Yields c job m sets) : job.compile c = .ok (m, sets) := by
  have hassembled : (job.assemble sets).instructions =
      sets.flatMap CompiledSet.instructionTexts := by rw [assemble_eq]
  have hinserted := insertAll_of_inserted (hassembled ▸ h.routine)
  rw [compile, compileBlocks_of_compileTo h.blocks]
  simp only [hinserted]
  rw [assemble_eq, ← h.tools, ← h.wobjs, ← h.declarations]

/-- Every set is the one that a block makes. -/
theorem Yields.exists_makes {m : ProgramModule} {sets : List CompiledSet}
    (h : Yields c job m sets) {set : CompiledSet} (hset : set ∈ sets) :
    ∃ block : Block, block.Makes c set := by
  obtain ⟨i, hi, rfl⟩ := List.getElem_of_mem hset
  have hblock := h.blocks.get (h.blocks.length_eq ▸ hi) hi
  exact ⟨_, Block.makes_of_compile hblock⟩

/-- The first step that fails is the fault of the job. -/
theorem Fails.compile_eq {fault : JobFault} (h : Fails c job fault) :
    job.compile c = .error fault := by
  cases h with
  | block hfirst =>
      rw [compile, compileBlocks_of_firstFault hfirst, Nat.zero_add]
  | @insertion sets fault hblocks hfault =>
      have hassembled : (job.assemble sets).instructions =
          sets.flatMap CompiledSet.instructionTexts := by rw [assemble_eq]
      have hinsert := insertAll_of_fault (hassembled ▸ hfault)
      rw [compile, compileBlocks_of_compileTo hblocks]
      simp only [hinsert]

/-- Each step of a job succeeds, or one of them is the first to fail. -/
theorem yields_or_fails (c : Compiler) (job : Job) :
    (∃ m sets, Yields c job m sets) ∨ ∃ fault, Fails c job fault := by
  rcases compileTo_or_firstFault c job.blocks with ⟨sets, hsets⟩ | ⟨index, cause, hfirst⟩
  · rcases inserted_or_fault (sets.flatMap CompiledSet.instructionTexts) job.insertions with
      ⟨lines, hlines⟩ | ⟨fault, hfault⟩
    · exact .inl ⟨⟨_, _, _, lines⟩, sets, hsets, rfl, rfl, rfl, hlines⟩
    · exact .inr ⟨_, .insertion hsets hfault⟩
  · exact .inr ⟨_, .block hfirst⟩

/-- The routine has a line for each instruction of its blocks and each position of its
insertions. -/
theorem Yields.length_instructions {m : ProgramModule} {sets : List CompiledSet}
    (h : Yields c job m sets) :
    m.instructions.length = (sets.map (·.instructions.length)).sum +
      (job.insertions.map (·.positions.length)).sum := by
  rw [h.routine.length_eq, List.length_flatMap]
  simp only [length_instructionTexts]

end Job

end RobotCell
