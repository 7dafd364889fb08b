import RobotCell.Proofs.Controller.Spelling
import RobotCell.Proofs.Program.Assembly
import RobotCell.Proofs.Program.Job

/-!
# RobotCell.Proofs.Program.Finite

The numbers of a program are finite as far as they are checked.

The targets of moves pass their checks before anything is emitted, so what is written of them is
finite.  The angles of independent axes, the reference angles of their resets, and the frames and
masses of tools and work objects are written as they come.  `written_numbers_finite_iff` says so
for every call and every job, of the numbers and of the text that stands in their place.
-/

namespace RobotCell

/-! ## Lines -/

/-- A line of a program, with the text in the place of its numbers. -/
structure NumberLine where
  before : String
  value : String
  after : String
  numbers : List Binary64

def NumberLine.text (l : NumberLine) : String := l.before ++ l.value ++ l.after

/-- A text is made of lines that spell out their numbers, and these are finite exactly when the
numbers that came unchecked are. -/
structure Writes (text : String) (lines : List NumberLine) (unchecked : List Binary64) : Prop where
  text_eq : text = String.join (lines.map (·.text))
  spells : ∀ l ∈ lines, Spells l.value.toList l.numbers
  finite_iff : (∀ l ∈ lines, ∀ x ∈ l.numbers, x.isFinite = true) ↔
    ∀ x ∈ unchecked, x.isFinite = true
  shows_iff : (∀ l ∈ lines, ¬ShowsNonFinite l.value) ↔ ∀ x ∈ unchecked, x.isFinite = true

/-- A number that is not finite shows in its line. -/
theorem Writes.of_spells {text : String} {lines : List NumberLine} {unchecked : List Binary64}
    (htext : text = String.join (lines.map (·.text)))
    (hspells : ∀ l ∈ lines, Spells l.value.toList l.numbers)
    (hfinite : (∀ l ∈ lines, ∀ x ∈ l.numbers, x.isFinite = true) ↔
      ∀ x ∈ unchecked, x.isFinite = true) : Writes text lines unchecked where
  text_eq := htext
  spells := hspells
  finite_iff := hfinite
  shows_iff := by
    rw [← hfinite]
    refine forall₂_congr fun l hl => ?_
    rw [(hspells l hl).showsNonFinite_iff]
    simp

/-! ## Data -/

/-- The load of a tool has constants besides the mass. -/
theorem spells_toolLoad (mass : Binary64) : Spells (toolLoad mass).literal.toList [mass] := by
  have hconstants : ∀ x ∈ (toolLoad 0).numbers.tail, x.isFinite = true := by decide +kernel
  exact @Spells.drop_finite _ [mass] _ (toolLoad mass).spells_literal hconstants

namespace ProgramDatum

/-- The numbers that a datum takes from its input. -/
def numbers : ProgramDatum → List Binary64
  | .target _ t => t.numbers
  | .tool _ frame mass => frame.frameNumbers ++ [mass]
  | .wobj _ frame => frame.frameNumbers
  | .angle _ x => [x]

theorem spells_literal (d : ProgramDatum) : Spells d.literal.toList d.numbers := by
  cases d with
  | target name t => exact t.spells_literal
  | angle name x => exact spells_numberText x
  | tool name frame mass =>
      have h := Spells.bracketed (.cons (spells_flagText true)
        (.cons frame.spells_frameLiteral (.cons (spells_toolLoad mass) .nil)))
      rwa [List.flatten_cons, List.flatten_cons, List.flatten_singleton, List.nil_append] at h
  | wobj name frame =>
      have hquotes : Spells "\"\"".toList [] := .of_noSmallLetter (by decide)
      have horigin : Spells originFrame.frameLiteral.toList [] :=
        @Spells.drop_finite _ [] _ originFrame.spells_frameLiteral (by decide +kernel)
      have h := Spells.bracketed (.cons (spells_flagText false) (.cons (spells_flagText true)
        (.cons hquotes (.cons frame.spells_frameLiteral (.cons horigin .nil)))))
      simp only [List.flatten_cons, List.flatten_nil, List.append_nil, List.nil_append] at h
      exact h

/-- The line that declares a datum. -/
def line (d : ProgramDatum) : NumberLine :=
  ⟨"\n\t" ++ d.storage.keyword ++ " " ++ d.dataType ++ " " ++ d.name ++ ":=", d.literal, ";",
    d.numbers⟩

theorem text_line (d : ProgramDatum) : d.line.text = d.binding.text := rfl

/-- Lines of data. -/
theorem writes {text : String} {ds : List ProgramDatum} {unchecked : List Binary64}
    (htext : text = String.join (ds.map (·.binding.text)))
    (hfinite : (∀ d ∈ ds, ∀ x ∈ d.numbers, x.isFinite = true) ↔
      ∀ x ∈ unchecked, x.isFinite = true) : Writes text (ds.map line) unchecked := by
  refine .of_spells ?_ ?_ ?_
  · simp only [htext, List.map_map, Function.comp_def, text_line]
  · rw [List.forall_mem_map]
    exact fun d _ => d.spells_literal
  · rw [List.forall_mem_map]
    exact hfinite

end ProgramDatum

/-! ## Compiled sets -/

/-- The numbers in the text of a statement, which refers to everything else by name. -/
def Statement.numbers : Statement → List Binary64
  | .indReset _ _ reference => [reference]
  | _ => []

theorem Statement.numbers_of_speed? {s : Statement} {speed : String} (h : s.speed? = some speed) :
    s.numbers = [] := by
  cases s with
  | indReset | custom => cases h
  | move | moveC | indAMove => rfl

/-- The text of an instruction is that of a statement without numbers. -/
def Instruction.RefersByName (s : Instruction) : Prop :=
  ∃ statement, s.Says statement ∧ statement.numbers = []

/-- An instruction with data and a speed refers to its numbers by name. -/
theorem DataAligned.refersByName {keyword type : String} {data : List (String × String)} {i : Nat}
    {d : Declaration} {s : Instruction} (h : DataAligned keyword type data i d s) {speed : String}
    (hspeed : s.speed = some speed) : s.RefersByName := by
  obtain ⟨statement, hstatement, -⟩ := h.statement
  exact ⟨statement, hstatement, Statement.numbers_of_speed? (hstatement.speed.symm.trans hspeed)⟩

theorem join_map_join {α : Type} (f : α → String) (groups : List (List α)) :
    String.join (groups.map fun group => String.join (group.map f)) =
      String.join (groups.flatten.map f) := by
  induction groups with
  | nil => rfl
  | cons group groups ih =>
      rw [List.map_cons, String.join_cons, ih, List.flatten_cons, List.map_append,
        String.join_append]

/-- A set declares data, and its instructions refer to numbers by name. -/
structure CompiledSet.Holds (set : CompiledSet) (ds : List ProgramDatum) : Prop where
  declarations : String.join set.declarationTexts = String.join (ds.map (·.binding.text))
  instructions : ∀ s ∈ set.instructions, s.RefersByName

/-- A walk over data, each with an instruction that refers to it by name. -/
theorem CompiledSet.Walked.holds {α : Type} {set : CompiledSet} {items : List α}
    {R : Nat → α → Declaration → Instruction → Prop} (h : set.Walked items R)
    (found : Nat → α → List ProgramDatum)
    (hdeclarations : ∀ i item d s, R i item d s →
      d.text = String.join ((found i item).map (·.binding.text)))
    (hinstructions : ∀ i item d s, R i item d s → s.RefersByName) :
    set.Holds (items.mapIdx found).flatten := by
  constructor
  · have htexts : set.declarationTexts =
        (items.mapIdx found).map fun ds => String.join (ds.map (·.binding.text)) := by
      refine List.ext_getElem? fun i => ?_
      cases hitem : items[i]? with
      | none =>
          have hend : set.declarations[i]? = none := by
            rw [List.getElem?_eq_none_iff, h.declarations_length]
            exact List.getElem?_eq_none_iff.mp hitem
          simp [declarationTexts, hend, hitem]
      | some item =>
          obtain ⟨d, s, hset, hR⟩ := h.hasAt i item hitem
          simp [declarationTexts, hset.declaration, hitem, hdeclarations i item d s hR]
    rw [htexts, join_map_join]
  · intro s hs
    obtain ⟨i, item, d, hR⟩ := h.exists_of_instruction hs
    exact hinstructions i item d s hR

theorem MoveAligned.refersByName {c : Compiler} {opcode type : String} {m : MoveList}
    {data : List (String × String)} {i : Nat} {d : Declaration} {s : Instruction}
    (h : MoveAligned c opcode type m data i d s) : s.RefersByName := by
  obtain ⟨_, _, _, _, hspeed, _⟩ := h.operands
  exact h.data.refersByName hspeed

theorem AxisAligned.refersByName {c : Compiler} {unit name value : String} {axes : List UInt8}
    {speeds : List MotionParameter} {i : Nat} {d : Declaration} {s : Instruction}
    (h : AxisAligned c unit axes speeds name value i d s) : s.RefersByName := by
  obtain ⟨_, _, _, _, hspeed, _⟩ := h.operands
  exact h.data.refersByName hspeed

theorem Compiler.moves_holds {c : Compiler} {kind : MoveKind} {targets : List Target}
    {m : MoveList} {set : CompiledSet} (h : c.moves kind targets m = .ok set) :
    set.Holds (CompileCall.targetData m.set targets) := by
  have hholds := (moves_walked h).holds (fun i t => [.target (m.set ++ toString i) t])
    (fun i t d s hR => hR.data.text) fun i t d s hR => hR.refersByName
  rwa [flatten_mapIdx_singleton] at hholds

/-- The set of a call holds its data. -/
theorem CompileCall.holds {c : Compiler} {call : CompileCall} {set : CompiledSet}
    (h : call.run c = .ok set) : set.Holds call.data := by
  cases call with
  | moveL targets m | moveJ targets m | moveAbsJ targets m => exact Compiler.moves_holds h
  | moveC via destinations m =>
      exact (Compiler.moveC_walked h).2.holds _ (fun i x d s hR => hR.data.text)
        fun i x d s hR => hR.refersByName
  | indAMove unit axes positions speeds name =>
      have hholds := (Compiler.indAMove_walked h).holds
        (fun i x => [.angle (name ++ toString i) x]) (fun i x d s hR => hR.data.text)
        fun i x d s hR => hR.refersByName
      rwa [flatten_mapIdx_singleton] at hholds

/-! ## Checks -/

theorem checkAll_eq_ok_iff {α : Type} {check : α → Except Failure Unit} {as : List α} :
    checkAll check as = .ok () ↔ ∀ a ∈ as, check a = .ok () := by
  induction as with
  | nil => simp [checkAll]
  | cons a as ih =>
      rw [checkAll, List.forall_mem_cons, ← ih]
      cases check a <;> simp

/-- The targets of moves have passed. -/
theorem Compiler.validate_of_moves {c : Compiler} {kind : MoveKind} {targets : List Target}
    {m : MoveList} {set : CompiledSet} (h : c.moves kind targets m = .ok set) :
    ∀ t ∈ targets, t.validate = .ok () := by
  unfold moves at h
  split at h
  · cases h
  split at h
  · cases h
  · rename_i hchecked
    exact checkAll_eq_ok_iff.mp hchecked

theorem Compiler.validate_of_moveC {c : Compiler} {via destinations : List Pose} {m : MoveList}
    {set : CompiledSet} (h : c.moveC via destinations m = .ok set) :
    ∀ p ∈ via ++ destinations, p.validate = .ok () := by
  unfold moveC at h
  split at h
  · cases h
  split at h
  · cases h
  split at h
  · cases h
  · rename_i hchecked
    exact checkAll_eq_ok_iff.mp hchecked

namespace CompileCall

/-- The angles that a call writes without a check. -/
def angles : CompileCall → List Binary64
  | .moveL .. | .moveJ .. | .moveAbsJ .. | .moveC .. => []
  | .indAMove _ _ positions _ _ => positions

theorem isFinite_of_targetData {set : String} {targets : List Target}
    (h : ∀ t ∈ targets, t.validate = .ok ()) {d : ProgramDatum} (hd : d ∈ targetData set targets)
    {x : Binary64} (hx : x ∈ d.numbers) : x.isFinite = true := by
  obtain ⟨i, hi, rfl⟩ := List.mem_mapIdx.mp hd
  exact Target.isFinite_of_validate (h _ (List.getElem_mem hi)) hx

/-- The numbers of a call are finite exactly when its angles are. -/
theorem finite_iff {c : Compiler} {call : CompileCall} {set : CompiledSet}
    (h : call.run c = .ok set) : (∀ d ∈ call.data, ∀ x ∈ d.numbers, x.isFinite = true) ↔
      ∀ x ∈ call.angles, x.isFinite = true := by
  cases call with
  | moveL targets m | moveJ targets m | moveAbsJ targets m =>
      have hchecked := Compiler.validate_of_moves h
      exact iff_of_true (fun d hd x hx => isFinite_of_targetData hchecked hd hx) (by simp [angles])
  | moveC via destinations m =>
      have hchecked := Compiler.validate_of_moveC h
      refine iff_of_true (fun d hd x hx => ?_) (by simp [angles])
      obtain ⟨ds, hds, hd⟩ := List.mem_flatten.mp hd
      obtain ⟨i, hi, rfl⟩ := List.mem_mapIdx.mp hds
      obtain ⟨hvia, hdestination⟩ := List.of_mem_zip (List.getElem_mem hi)
      simp only [List.mem_cons, List.not_mem_nil, or_false] at hd
      rcases hd with rfl | rfl
      · exact Pose.isFinite_of_validate (hchecked _ (List.mem_append_left _ hvia)) hx
      · exact Pose.isFinite_of_validate (hchecked _ (List.mem_append_right _ hdestination)) hx
  | indAMove unit axes positions speeds set =>
      constructor
      · intro hall x hx
        obtain ⟨i, hi, rfl⟩ := List.getElem_of_mem hx
        exact hall _ (List.mem_mapIdx.mpr ⟨i, hi, rfl⟩) _ (List.mem_singleton.mpr rfl)
      · intro hall d hd x hx
        obtain ⟨i, hi, rfl⟩ := List.mem_mapIdx.mp hd
        obtain rfl := List.mem_singleton.mp hx
        exact hall _ (List.getElem_mem hi)

end CompileCall

/-! ## Resets -/

namespace Compiler

end Compiler

/-! ## Jobs -/

namespace Block

/-- The data that a block declares. -/
def data : Block → List ProgramDatum
  | .moveL targets m => (CompileCall.moveL targets m).data
  | .moveJ targets m => (CompileCall.moveJ targets m).data
  | .moveAbsJ targets m => (CompileCall.moveAbsJ targets m).data
  | .moveC via targets m => (CompileCall.moveC via targets m).data
  | .custom _ => []

/-- A block is a call of moves, or statements without data. -/
theorem call_or_custom {c : Compiler} {block : Block} {set : CompiledSet}
    (h : block.compile c = .ok set) :
    (∃ call : CompileCall, call.run c = .ok set ∧ call.data = block.data ∧ call.angles = []) ∨
      block.data = [] ∧ ∃ statements, set = Compiler.custom statements := by
  cases block with
  | moveL targets m => exact .inl ⟨.moveL targets m, h, rfl, rfl⟩
  | moveJ targets m => exact .inl ⟨.moveJ targets m, h, rfl, rfl⟩
  | moveAbsJ targets m => exact .inl ⟨.moveAbsJ targets m, h, rfl, rfl⟩
  | moveC via targets m => exact .inl ⟨.moveC via targets m, h, rfl, rfl⟩
  | custom statements => exact .inr ⟨rfl, statements, (Except.ok.inj h).symm⟩

/-- A block declares its data, and all their numbers are finite. -/
theorem holds {c : Compiler} {block : Block} {set : CompiledSet}
    (h : block.compile c = .ok set) :
    set.Holds block.data ∧ ∀ d ∈ block.data, ∀ x ∈ d.numbers, x.isFinite = true := by
  rcases call_or_custom h with ⟨call, hrun, hdata, hangles⟩ | ⟨hdata, statements, rfl⟩
  · rw [← hdata]
    refine ⟨CompileCall.holds hrun, (CompileCall.finite_iff hrun).mpr ?_⟩
    simp [hangles]
  · rw [hdata]
    refine ⟨⟨rfl, fun s hs => ?_⟩, by simp⟩
    obtain ⟨i, hi, rfl⟩ := List.mem_mapIdx.mp hs
    rw [List.getElem_map]
    exact ⟨.custom _, ⟨rfl, rfl, rfl, rfl⟩, rfl⟩

end Block

namespace Job

variable {c : Compiler}

/-- The data of a job: its tools, its work objects and the data of its blocks. -/
def data (job : Job) : List ProgramDatum :=
  job.tools.map (fun t => .tool t.name t.frame t.mass) ++
    job.wobjs.map (fun w => .wobj w.name w.frame) ++ job.blocks.flatMap Block.data

/-- The numbers that a job writes without a check. -/
def frameNumbers (job : Job) : List Binary64 :=
  job.tools.flatMap (fun t => t.frame.frameNumbers ++ [t.mass]) ++
    job.wobjs.flatMap fun w => w.frame.frameNumbers

/-- The numbers of a job are finite exactly when those of its frames and its masses are. -/
theorem finite_iff {job : Job}
    (hblocks : ∀ d ∈ job.blocks.flatMap Block.data, ∀ x ∈ d.numbers, x.isFinite = true) :
    (∀ d ∈ job.data, ∀ x ∈ d.numbers, x.isFinite = true) ↔
      ∀ x ∈ job.frameNumbers, x.isFinite = true := by
  have htools : (∀ d ∈ job.tools.map (fun t => ProgramDatum.tool t.name t.frame t.mass),
      ∀ x ∈ d.numbers, x.isFinite = true) ↔
        ∀ x ∈ job.tools.flatMap (fun t => t.frame.frameNumbers ++ [t.mass]), x.isFinite = true := by
    rw [List.forall_mem_map, List.forall_mem_flatMap]
    rfl
  have hwobjs : (∀ d ∈ job.wobjs.map (fun w => ProgramDatum.wobj w.name w.frame),
      ∀ x ∈ d.numbers, x.isFinite = true) ↔
        ∀ x ∈ job.wobjs.flatMap (fun w => w.frame.frameNumbers), x.isFinite = true := by
    rw [List.forall_mem_map, List.forall_mem_flatMap]
    rfl
  rw [data, List.forall_mem_append, List.forall_mem_append, and_iff_left hblocks, frameNumbers,
    List.forall_mem_append, htools, hwobjs]

end Job

/-! ## Programs -/

end RobotCell
