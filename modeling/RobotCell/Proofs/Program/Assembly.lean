import RobotCell.Program.Records
import RobotCell.Proofs.Controller.ModuleScan
import RobotCell.Proofs.Controller.Value
import RobotCell.Proofs.Program.Alignment

/-!
# RobotCell.Proofs.Program.Assembly

What a scan finds in an assembled program.

A program is put together from parts: compiled calls, tools and work objects.  Each adds texts to
its module, and a scan of the module finds the data of the parts again (`scan_assembled`), whatever
the texts of the instructions say in their lines.
-/

namespace RobotCell

open ModuleScan

/-! ## Data -/

/-- A datum that a part of a program declares. -/
inductive ProgramDatum where
  | target (name : String) (t : Target)
  | tool (name : String) (frame : Pose) (mass : Binary64)
  | wobj (name : String) (frame : Pose)
  | angle (name : String) (x : Binary64)

namespace ProgramDatum

def name : ProgramDatum → String
  | .target name _ | .tool name _ _ | .wobj name _ | .angle name _ => name

def storage : ProgramDatum → Storage
  | .target .. => .const
  | .tool .. => .persistent
  | .wobj .. => .taskPersistent
  | .angle .. => .variable

def dataType : ProgramDatum → String
  | .target _ t => t.dataType
  | .tool .. => "tooldata"
  | .wobj .. => "wobjdata"
  | .angle .. => "num"

def literal : ProgramDatum → String
  | .target _ t => t.literal
  | .tool _ frame mass => (ToolData.mk true frame (toolLoad mass)).literal
  | .wobj _ frame => (WobjData.mk false true "" frame originFrame).literal
  | .angle _ x => numberText x

def binding (d : ProgramDatum) : Binding := ⟨d.storage, d.dataType, d.name, some d.literal⟩

/-- What a scan finds of a datum. -/
def declared (d : ProgramDatum) : Declared := ⟨d.dataType, d.name, d.literal⟩

/-- A datum as an item of the module. -/
def item (d : ProgramDatum) : DataItem := ⟨moduleName, d.name, d.dataType, d.literal⟩

theorem isName_dataType (d : ProgramDatum) : IsName d.dataType := by
  cases d with
  | target name t =>
      cases t with
      | cartesian p => exact (by decide : IsName "robtarget")
      | joint p => exact (by decide : IsName "jointtarget")
  | tool => exact (by decide : IsName "tooldata")
  | wobj => exact (by decide : IsName "wobjdata")
  | angle => exact (by decide : IsName "num")

theorem isValue_numberText (x : Binary64) : IsValue (numberText x) := by
  have hblank : ∀ c ∈ (numberText x).toList, isBlank c = false := fun c hc =>
    (isScalarChar_iff.mp (isScalarChar_of_mem_numberText hc)).2.1
  exact ⟨(printed_numberText x).inline, fun c hc => hblank c (List.mem_of_mem_head? hc),
    trim_of_not_blank hblank⟩

/-- Every datum has a value for one line. -/
theorem isValue_literal (d : ProgramDatum) : IsValue d.literal := by
  cases d with
  | target name t =>
      cases t with
      | cartesian p =>
          obtain ⟨ts, hprinted, -⟩ := p.printed_groups
          exact isValue_bracketed hprinted (by simp)
      | joint p =>
          obtain ⟨ts, hprinted, -⟩ := p.printed_groups
          exact isValue_bracketed hprinted (by simp)
  | tool name frame mass =>
      obtain ⟨ts, hprinted, -⟩ := (ToolData.mk true frame (toolLoad mass)).printed_fields
      exact isValue_bracketed hprinted (by simp)
  | wobj name frame =>
      obtain ⟨ts, hprinted, -⟩ := @WobjData.printed_fields
        ⟨false, true, "", frame, originFrame⟩ (by simp) (by simp)
      exact isValue_bracketed hprinted (by simp)
  | angle name x => exact isValue_numberText x

/-- The line of a datum is one declaration. -/
theorem block {d : ProgramDatum} (h : IsName d.name) : ScanBlock d.binding.text [d.declared] :=
  ScanBlock.data d.storage d.isName_dataType h d.isValue_literal

theorem block_join {ds : List ProgramDatum} (h : ∀ d ∈ ds, IsName d.name) :
    ScanBlock (String.join (ds.map fun d => d.binding.text)) (ds.map declared) := by
  have hjoin := @ScanBlock.join _ (fun d : ProgramDatum => d.binding.text) (fun d => [d.declared]) ds
    fun d hd => block (h d hd)
  rwa [← List.map_eq_flatMap] at hjoin

end ProgramDatum

/-! ## Compiled calls -/

namespace CompileCall

/-- The name of the set. -/
def set : CompileCall → String
  | .moveL _ m | .moveJ _ m | .moveAbsJ _ m | .moveC _ _ m => m.set
  | .indAMove _ _ _ _ set => set

/-- The texts that a call puts into its instructions as they are. -/
def verbatim : CompileCall → List String
  | .moveL _ m | .moveJ _ m | .moveAbsJ _ m | .moveC _ _ m => [m.frames.tool, m.frames.wobj]
  | .indAMove unit _ _ _ _ => [unit]

/-- The data of targets, named after their places in a set. -/
def targetData (set : String) (targets : List Target) : List ProgramDatum :=
  targets.mapIdx fun i t => .target (set ++ toString i) t

/-- The data that a call declares, in order. -/
def data : CompileCall → List ProgramDatum
  | .moveL targets m | .moveJ targets m => targetData m.set (targets.map .cartesian)
  | .moveAbsJ targets m => targetData m.set (targets.map .joint)
  | .moveC via destinations m =>
    ((via.zip destinations).mapIdx fun i x =>
      [.target ("cir" ++ m.set ++ toString i) (.cartesian x.1),
        .target ("to" ++ m.set ++ toString i) (.cartesian x.2)]).flatten
  | .indAMove _ _ positions _ set => positions.mapIdx fun i x => .angle (set ++ toString i) x

end CompileCall

theorem isAsciiWord_of_isDigit {c : Char} (h : c.isDigit = true) : isAsciiWord c = true := by
  simp [isAsciiWord, Char.isAlphanum, h]

/-- A number behind word characters is a name. -/
theorem isName_append_toString {stem : String} (h : ∀ c ∈ stem.toList, isAsciiWord c = true)
    (i : Nat) : IsName (stem ++ toString i) := by
  have hdigits : (toString i).toList = natDigits i := by
    rw [Nat.toString_eq_repr, Nat.toList_repr]
    rfl
  constructor
  · intro hempty
    have hchars := congrArg String.toList hempty
    rw [String.toList_append, hdigits] at hchars
    exact natDigits_ne_nil i (List.append_eq_nil_iff.mp hchars).2
  · intro c hc
    rw [String.toList_append, hdigits] at hc
    exact (List.mem_append.mp hc).elim (h c) fun hdigit =>
      isAsciiWord_of_isDigit (isDigit_of_mem_natDigits hdigit)

/-- A walk whose declarations are blocks is a block. -/
theorem block_of_declarations {α : Type} {items : List α} {ds : List Declaration}
    {found : Nat → α → List ProgramDatum} (hlen : ds.length = items.length)
    (h : ∀ i item d, items[i]? = some item → ds[i]? = some d →
      ScanBlock d.text ((found i item).map ProgramDatum.declared)) :
    ScanBlock (String.join (ds.map (·.text)))
      ((items.mapIdx found).flatten.map ProgramDatum.declared) := by
  induction items generalizing ds found with
  | nil =>
      obtain rfl := List.eq_nil_of_length_eq_zero hlen
      exact ScanBlock.empty
  | cons item items ih =>
      obtain ⟨d, ds, rfl⟩ := List.exists_cons_of_length_eq_add_one hlen
      rw [List.map_cons, String.join_cons, List.mapIdx_cons, List.flatten_cons, List.map_append]
      exact (h 0 item d rfl rfl).append
        (ih (Nat.succ.inj hlen) fun i item d hitem hd => h (i + 1) item d hitem hd)

/-! ## Lines -/

/-- A text without line ends. -/
def OneLine (text : String) : Prop := '\n' ∉ text.toList

instance (text : String) : Decidable (OneLine text) :=
  inferInstanceAs (Decidable ('\n' ∉ text.toList))

theorem OneLine.append {s t : String} (hs : OneLine s) (ht : OneLine t) : OneLine (s ++ t) := by
  rw [OneLine, String.toList_append, List.mem_append, not_or]
  exact ⟨hs, ht⟩

theorem oneLine_of_isAsciiWord {s : String} (h : ∀ c ∈ s.toList, isAsciiWord c = true) :
    OneLine s := fun hmem => by
  have hword := h _ hmem
  revert hword
  decide

/-- Operands are apart by commas. -/
theorem oneLine_operands {operands : List String} (h : ∀ operand ∈ operands, OneLine operand) :
    OneLine (",".intercalate operands) := by
  have hchars : (",".intercalate operands).toList = itemChars operands := by
    rw [String.toList_intercalate]
    rfl
  intro hmem
  rw [hchars] at hmem
  rcases mem_itemChars hmem with hcomma | ⟨operand, hoperand, hc⟩
  · revert hcomma
    decide
  · exact h operand hoperand hc

/-- A statement that starts no declaration is a line without one. -/
theorem block_routineLine {body : String} {c : Char} {cs : List Char}
    (hbody : body.toList = c :: cs) (hblank : isBlank c = false)
    (hstart : ∀ rest, afterStorage? (c :: rest) = none) (hline : OneLine body) :
    ScanBlock (routineLine body) [] := by
  have htext : routineLine body = "\n" ++ ("\t\t" ++ body ++ ";") := by
    simp [routineLine, ← String.toList_inj]
  have htrim : trimStart ("\t\t" ++ body ++ ";").toList = c :: (cs ++ [';']) := by
    have hchars : ("\t\t" ++ body ++ ";").toList = '\t' :: '\t' :: c :: (cs ++ [';']) := by
      simp [hbody]
    rw [hchars]
    exact trimStart_of_head hblank
  rw [htext]
  refine ScanBlock.plain ⟨?_, c, cs ++ [';'], htrim, hblank, fun rest => hstart _⟩
  exact ((show OneLine "\t\t" by decide).append hline).append (by decide)

/-- Instructions that declare nothing. -/
theorem block_of_instructions {ss : List Instruction} (h : ∀ s ∈ ss, ScanBlock s.text []) :
    ScanBlock (String.join (ss.map (·.text))) [] := by
  have hjoin : ScanBlock (String.join (ss.map (·.text))) (ss.flatMap fun _ => []) :=
    @ScanBlock.join _ _ (fun _ => []) ss h
  rwa [List.flatMap_eq_nil_iff.mpr fun _ _ => rfl] at hjoin

/-! ## Instructions -/

/-- The speed and the zone of an instruction have no line ends. -/
def Instruction.OneLineSymbols (s : Instruction) : Prop :=
  (∀ speed ∈ s.speed, OneLine speed) ∧ ∀ zone ∈ s.zone, OneLine zone

instance (s : Instruction) : Decidable s.OneLineSymbols :=
  inferInstanceAs (Decidable ((∀ speed ∈ s.speed, OneLine speed) ∧ ∀ zone ∈ s.zone, OneLine zone))

/-- A move whose operands have no line ends declares nothing. -/
theorem MoveAligned.block {c : Compiler} {opcode type : String} {m : MoveList}
    {data : List (String × String)} {i : Nat} {d : Declaration} {s : Instruction}
    (h : MoveAligned c opcode type m data i d s) {cs : List Char}
    (hopcode : opcode.toList = 'M' :: cs) (hline : OneLine opcode)
    (hnames : ∀ x ∈ data, OneLine x.1) (htool : OneLine m.frames.tool)
    (hwobj : OneLine m.frames.wobj) (hsymbols : s.OneLineSymbols) : ScanBlock s.text [] := by
  obtain ⟨speed, zone, -, -, hspeed, hzone, htext⟩ := h.operands
  let operands := d.names ++ [speed, zone, m.frames.tool ++ "\\WObj:=" ++ m.frames.wobj]
  have hbody : s.text = routineLine (opcode ++ (" " ++ ",".intercalate operands)) := by
    rw [htext]
    simp only [routineLine, String.append_assoc, operands]
  have hoperands : ∀ operand ∈ operands, OneLine operand := by
    intro operand hmem
    simp only [operands, List.mem_append, List.mem_cons, List.not_mem_nil, or_false] at hmem
    rcases hmem with hname | rfl | rfl | rfl
    · rw [h.data.names] at hname
      obtain ⟨x, hx, rfl⟩ := List.mem_map.mp hname
      exact hnames x hx
    · exact hsymbols.1 _ hspeed
    · exact hsymbols.2 _ hzone
    · exact (htool.append (by decide)).append hwobj
  have hchars : (opcode ++ (" " ++ ",".intercalate operands)).toList =
      'M' :: (cs ++ (" " ++ ",".intercalate operands).toList) := by
    rw [String.toList_append, hopcode, List.cons_append]
  rw [hbody]
  exact block_routineLine hchars (by decide) (fun _ => rfl)
    (hline.append ((by decide : OneLine " ").append (oneLine_operands hoperands)))

/-- A move of an independent axis of a unit on one line declares nothing. -/
theorem AxisAligned.block {c : Compiler} {unit name value : String} {axes : List UInt8}
    {speeds : List MotionParameter} {i : Nat} {d : Declaration} {s : Instruction}
    (h : AxisAligned c unit axes speeds name value i d s) (hunit : OneLine unit)
    (hname : OneLine name) (hsymbols : s.OneLineSymbols) : ScanBlock s.text [] := by
  obtain ⟨speed, axis, -, -, hspeed, -, htext⟩ := h.operands
  let operands := unit ++ "," ++ toString axis ++ "\\ToAbsNum:=" ++ name ++ "," ++ speed
  have hbody : s.text = routineLine ("IndAMove " ++ operands) := by
    rw [htext]
    simp only [routineLine, ← String.append_assoc, operands]
    rfl
  have haxis : OneLine (toString axis) := oneLine_of_isAsciiWord fun ch hch => by
    have hdigits : (toString axis).toList = natDigits axis.toNat := toList_toString axis.toNat
    exact isAsciiWord_of_isDigit (isDigit_of_mem_natDigits (hdigits ▸ hch))
  have hoperands : OneLine operands :=
    (((((hunit.append (by decide)).append haxis).append (by decide)).append hname).append
      (by decide)).append (hsymbols.1 _ hspeed)
  have hchars : ("IndAMove " ++ operands).toList = 'I' :: ("ndAMove " ++ operands).toList := by
    simp
  rw [hbody]
  exact block_routineLine hchars (by decide) (fun _ => rfl)
    ((by decide : OneLine "IndAMove ").append hoperands)

/-! ## Compiled sets -/

/-- A call that leaves a scan its lines: its set is named in word characters, and the texts that it
takes over have no line ends. -/
structure CompileCall.Scannable (c : Compiler) (call : CompileCall) : Prop where
  set : ∀ ch ∈ call.set.toList, isAsciiWord ch = true
  verbatim : ∀ text ∈ call.verbatim, OneLine text
  symbols : ∀ set, call.run c = .ok set → ∀ s ∈ set.instructions, s.OneLineSymbols

/-- The symbols of a compiled set as a test that runs. -/
theorem CompileCall.all_oneLineSymbols_iff {c : Compiler} {call : CompileCall} :
    ((call.run c).toOption.all fun set =>
      set.instructions.all fun s => decide s.OneLineSymbols) = true ↔
    ∀ set, call.run c = .ok set → ∀ s ∈ set.instructions, s.OneLineSymbols := by
  cases call.run c <;> simp [Except.toOption]

instance (c : Compiler) (call : CompileCall) : Decidable (call.Scannable c) :=
  have : Decidable (∀ set, call.run c = .ok set →
      ∀ s ∈ set.instructions, s.OneLineSymbols) :=
    decidable_of_iff _ CompileCall.all_oneLineSymbols_iff
  decidable_of_iff (call.set.toList.all isAsciiWord = true ∧
      (∀ text ∈ call.verbatim, OneLine text) ∧
      ∀ set, call.run c = .ok set → ∀ s ∈ set.instructions, s.OneLineSymbols)
    ⟨fun h => ⟨List.all_eq_true.mp h.1, h.2.1, h.2.2⟩,
      fun h => ⟨List.all_eq_true.mpr h.set, h.verbatim, h.symbols⟩⟩

/-- The lines of data that are aligned. -/
theorem DataAligned.block {keyword type : String} {data : List (String × String)} {i : Nat}
    {d : Declaration} {s : Instruction} (h : DataAligned keyword type data i d s)
    {ds : List ProgramDatum}
    (hdata : data.map (fun x => dataLine keyword type x.1 x.2) = ds.map fun d => d.binding.text)
    (hnames : ∀ d ∈ ds, IsName d.name) : ScanBlock d.text (ds.map ProgramDatum.declared) := by
  rw [h.text, hdata]
  exact ProgramDatum.block_join hnames

/-- A walk over data, with instructions that declare nothing. -/
theorem CompiledSet.Walked.blocks {α : Type} {set : CompiledSet} {items : List α}
    {R : Nat → α → Declaration → Instruction → Prop} (h : set.Walked items R)
    {found : Nat → α → List ProgramDatum}
    (hdeclarations : ∀ i item d s, R i item d s →
      ScanBlock d.text ((found i item).map ProgramDatum.declared))
    (hinstructions : ∀ i item d s, s ∈ set.instructions → R i item d s → ScanBlock s.text []) :
    ScanBlock (String.join set.declarationTexts)
        ((items.mapIdx found).flatten.map ProgramDatum.declared) ∧
      ScanBlock (String.join set.instructionTexts) [] := by
  constructor
  · refine block_of_declarations h.declarations_length fun i item d hitem hd => ?_
    obtain ⟨d', s, hset, hR⟩ := h.hasAt i item hitem
    obtain rfl := Option.some.inj (hd.symm.trans hset.declaration)
    exact hdeclarations i item d s hR
  · refine block_of_instructions fun s hs => ?_
    obtain ⟨i, item, d, hR⟩ := h.exists_of_instruction hs
    exact hinstructions i item d s hs hR

/-- A walk with one datum for each item. -/
theorem flatten_mapIdx_singleton {α β : Type} (f : Nat → α → β) (as : List α) :
    (as.mapIdx fun i a => [f i a]).flatten = as.mapIdx f := by
  induction as generalizing f with
  | nil => rfl
  | cons a as ih => simp [List.mapIdx_cons, ih]

namespace Compiler

theorem moves_blocks {c : Compiler} {kind : MoveKind} {targets : List Target} {m : MoveList}
    {set : CompiledSet} (h : c.moves kind targets m = .ok set)
    (hset : ∀ ch ∈ m.set.toList, isAsciiWord ch = true) (htool : OneLine m.frames.tool)
    (hwobj : OneLine m.frames.wobj)
    (hsymbols : ∀ s ∈ set.instructions, s.OneLineSymbols) :
    ScanBlock (String.join set.declarationTexts)
        ((CompileCall.targetData m.set targets).map ProgramDatum.declared) ∧
      ScanBlock (String.join set.instructionTexts) [] := by
  have hname (i : Nat) : IsName (m.set ++ toString i) := isName_append_toString hset i
  have hblocks := @CompiledSet.Walked.blocks _ _ _ _ (moves_walked h)
    (fun i t => [ProgramDatum.target (m.set ++ toString i) t])
    (fun i t d s hR => hR.data.block rfl (List.forall_mem_singleton.mpr (hname i)))
    fun i t d s hs hR => ?_
  · rwa [flatten_mapIdx_singleton] at hblocks
  · have hline : ∀ x ∈ [(m.set ++ toString i, t.literal)], OneLine x.1 := by
      simpa using oneLine_of_isAsciiWord (hname i).chars
    cases kind <;> exact hR.block rfl (by decide) hline htool hwobj (hsymbols s hs)

theorem moveC_blocks {c : Compiler} {via destinations : List Pose} {m : MoveList}
    {set : CompiledSet} (h : c.moveC via destinations m = .ok set)
    (hset : ∀ ch ∈ m.set.toList, isAsciiWord ch = true) (htool : OneLine m.frames.tool)
    (hwobj : OneLine m.frames.wobj)
    (hsymbols : ∀ s ∈ set.instructions, s.OneLineSymbols) :
    ScanBlock (String.join set.declarationTexts)
        ((CompileCall.moveC via destinations m).data.map ProgramDatum.declared) ∧
      ScanBlock (String.join set.instructionTexts) [] := by
  have hvia (i : Nat) : IsName ("cir" ++ m.set ++ toString i) :=
    isName_append_toString (by simpa using ⟨by decide, by decide, by decide, hset⟩) i
  have hto (i : Nat) : IsName ("to" ++ m.set ++ toString i) :=
    isName_append_toString (by simpa using ⟨by decide, by decide, hset⟩) i
  refine (moveC_walked h).2.blocks (fun i x d s hR => hR.data.block rfl ?_) fun i x d s hs hR => ?_
  · simpa [ProgramDatum.name] using ⟨hvia i, hto i⟩
  · refine hR.block rfl (by decide) ?_ htool hwobj (hsymbols s hs)
    simpa using ⟨oneLine_of_isAsciiWord (hvia i).chars, oneLine_of_isAsciiWord (hto i).chars⟩

theorem indAMove_blocks {c : Compiler} {unit set : String} {axes : List UInt8}
    {positions : List Binary64} {speeds : List MotionParameter} {compiled : CompiledSet}
    (h : c.indAMove unit axes positions speeds set = .ok compiled)
    (hset : ∀ ch ∈ set.toList, isAsciiWord ch = true) (hunit : OneLine unit)
    (hsymbols : ∀ s ∈ compiled.instructions, s.OneLineSymbols) :
    ScanBlock (String.join compiled.declarationTexts)
        ((CompileCall.indAMove unit axes positions speeds set).data.map ProgramDatum.declared) ∧
      ScanBlock (String.join compiled.instructionTexts) [] := by
  have hname (i : Nat) : IsName (set ++ toString i) := isName_append_toString hset i
  have hblocks := @CompiledSet.Walked.blocks _ _ _ _ (indAMove_walked h)
    (fun i x => [ProgramDatum.angle (set ++ toString i) x])
    (fun i x d s hR => hR.data.block rfl (List.forall_mem_singleton.mpr (hname i)))
    fun i x d s hs hR => hR.block hunit (oneLine_of_isAsciiWord (hname i).chars) (hsymbols s hs)
  rwa [flatten_mapIdx_singleton] at hblocks

end Compiler

/-- The lines of a compiled call. -/
theorem CompileCall.blocks {c : Compiler} {call : CompileCall} {set : CompiledSet}
    (h : call.run c = .ok set) (hcall : call.Scannable c) :
    ScanBlock (String.join set.declarationTexts) (call.data.map ProgramDatum.declared) ∧
      ScanBlock (String.join set.instructionTexts) [] := by
  have hsymbols := hcall.symbols set h
  cases call with
  | moveL targets m | moveJ targets m | moveAbsJ targets m =>
      have hframes := hcall.verbatim
      simp only [verbatim, List.forall_mem_cons] at hframes
      exact Compiler.moves_blocks h hcall.set hframes.1 hframes.2.1 hsymbols
  | moveC via destinations m =>
      have hframes := hcall.verbatim
      simp only [verbatim, List.forall_mem_cons] at hframes
      exact Compiler.moveC_blocks h hcall.set hframes.1 hframes.2.1 hsymbols
  | indAMove unit axes positions speeds set =>
      exact Compiler.indAMove_blocks h hcall.set (hcall.verbatim unit (by simp [verbatim])) hsymbols

/-! ## Programs -/

/-- What a program is put together from. -/
inductive ProgramPart where
  | compiled (c : Compiler) (call : CompileCall)
  | tool (name : String) (frame : Pose) (mass : Binary64)
  | wobj (name : String) (frame : Pose)

namespace ProgramPart

/-- A module with a part after what it holds. -/
def push (m : ProgramModule) : ProgramPart → Except Failure ProgramModule
  | .compiled c call => (call.run c).map m.pushSet
  | .tool name frame mass => .ok (m.addTool (toolData name frame mass).text)
  | .wobj name frame => .ok (m.addWobj (wobjData name frame).text)

/-- The module of a list of parts. -/
def assemble (parts : List ProgramPart) : Except Failure ProgramModule := parts.foldlM push {}

/-- A part whose texts leave a scan its lines. -/
def Scannable : ProgramPart → Prop
  | .compiled c call => call.Scannable c
  | .tool name _ _ | .wobj name _ => IsName name

instance : (part : ProgramPart) → Decidable part.Scannable
  | .compiled c call => inferInstanceAs (Decidable (call.Scannable c))
  | .tool name _ _ | .wobj name _ => inferInstanceAs (Decidable (IsName name))

def tools : ProgramPart → List ProgramDatum
  | .tool name frame mass => [.tool name frame mass]
  | _ => []

def wobjs : ProgramPart → List ProgramDatum
  | .wobj name frame => [.wobj name frame]
  | _ => []

def declarations : ProgramPart → List ProgramDatum
  | .compiled _ call => call.data
  | _ => []

/-- The data of a program: the tools, the work objects and the data of the calls. -/
def data (parts : List ProgramPart) : List ProgramDatum :=
  parts.flatMap tools ++ parts.flatMap wobjs ++ parts.flatMap declarations

/-- What the blocks of a module declare is what its parts do. -/
structure Assembled (m : ProgramModule) (parts : List ProgramPart) : Prop where
  tools : ScanBlock (String.join m.tools) ((parts.flatMap tools).map ProgramDatum.declared)
  wobjs : ScanBlock (String.join m.wobjs) ((parts.flatMap wobjs).map ProgramDatum.declared)
  declarations : ScanBlock (String.join m.declarations)
    ((parts.flatMap declarations).map ProgramDatum.declared)
  instructions : ScanBlock (String.join m.instructions) []

namespace Assembled

theorem empty : Assembled {} [] := ⟨.empty, .empty, .empty, .empty⟩

/-- Texts after others. -/
theorem append_block {before after : List String} {ds more : List ProgramDatum}
    (h : ScanBlock (String.join before) (ds.map ProgramDatum.declared))
    (hmore : ScanBlock (String.join after) (more.map ProgramDatum.declared)) :
    ScanBlock (String.join (before ++ after)) ((ds ++ more).map ProgramDatum.declared) := by
  rw [String.join_append, List.map_append]
  exact h.append hmore

theorem push {m m' : ProgramModule} {parts : List ProgramPart} {part : ProgramPart}
    (h : Assembled m parts) (hpart : part.Scannable) (hpush : part.push m = .ok m') :
    Assembled m' (parts ++ [part]) := by
  have hline {name : String} (d : ProgramDatum) (hname : d.name = name) (h : IsName name) :
      ScanBlock (String.join [d.binding.text]) ([d].map ProgramDatum.declared) :=
    ProgramDatum.block_join (List.forall_mem_singleton.mpr (hname ▸ h))
  have hsame (f : ProgramPart → List ProgramDatum) (hf : f part = []) :
      (parts ++ [part]).flatMap f = parts.flatMap f := by
    rw [List.flatMap_append, List.flatMap_singleton, hf, List.append_nil]
  have hmore (f : ProgramPart → List ProgramDatum) :
      (parts ++ [part]).flatMap f = parts.flatMap f ++ f part := by
    rw [List.flatMap_append, List.flatMap_singleton]
  cases part with
  | compiled c call =>
      cases hrun : call.run c with
      | error e => simp [ProgramPart.push, hrun, Except.map] at hpush
      | ok set =>
          obtain rfl : m.pushSet set = m' := by
            simpa [ProgramPart.push, hrun, Except.map] using hpush
          obtain ⟨hdeclarations, hinstructions⟩ := CompileCall.blocks hrun hpart
          refine ⟨?_, ?_, ?_, ?_⟩
          · rw [hsame _ rfl]
            exact h.tools
          · rw [hsame _ rfl]
            exact h.wobjs
          · rw [hmore]
            exact append_block h.declarations hdeclarations
          · exact @append_block _ _ [] [] h.instructions hinstructions
  | tool name frame mass =>
      obtain rfl := Except.ok.inj hpush
      refine ⟨?_, ?_, ?_, h.instructions⟩
      · rw [hmore]
        exact append_block h.tools (hline (.tool name frame mass) rfl hpart)
      · rw [hsame _ rfl]
        exact h.wobjs
      · rw [hsame _ rfl]
        exact h.declarations
  | wobj name frame =>
      obtain rfl := Except.ok.inj hpush
      refine ⟨?_, ?_, ?_, h.instructions⟩
      · rw [hsame _ rfl]
        exact h.tools
      · rw [hmore]
        exact append_block h.wobjs (hline (.wobj name frame) rfl hpart)
      · rw [hsame _ rfl]
        exact h.declarations

/-- Parts pushed one after another. -/
theorem foldlM {m m' : ProgramModule} {before parts : List ProgramPart} (h : Assembled m before)
    (hparts : ∀ part ∈ parts, part.Scannable) (hfold : parts.foldlM ProgramPart.push m = .ok m') :
    Assembled m' (before ++ parts) := by
  induction parts generalizing m before with
  | nil =>
      obtain rfl := Except.ok.inj hfold
      rwa [List.append_nil]
  | cons part parts ih =>
      rw [List.foldlM_cons] at hfold
      cases hpush : part.push m with
      | error e =>
          rw [hpush] at hfold
          cases hfold
      | ok m₁ =>
          rw [hpush] at hfold
          have hmore := ih (h.push (hparts part List.mem_cons_self) hpush)
            (fun part hmem => hparts part (List.mem_cons_of_mem _ hmem)) hfold
          rwa [List.append_assoc] at hmore

end Assembled

/-- **An assembled program is scanned** as the data of its parts. -/
theorem scan_assembled {parts : List ProgramPart} {m : ProgramModule}
    (hparts : ∀ part ∈ parts, part.Scannable) (h : assemble parts = .ok m) :
    LoadedModule.scan m.render = .ok ⟨moduleName, (data parts).map ProgramDatum.item⟩ := by
  have hassembled : Assembled m parts := Assembled.empty.foldlM hparts h
  rw [scan_render hassembled.tools hassembled.wobjs hassembled.declarations
    hassembled.instructions, data, List.map_append, List.map_append, List.map_append,
    List.map_append, List.map_map, List.map_map, List.map_map]
  rfl

end ProgramPart

end RobotCell
