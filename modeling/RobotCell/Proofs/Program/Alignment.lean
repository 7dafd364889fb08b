import RobotCell.Program.Compiler

/-!
# RobotCell.Proofs.Program.Alignment

Compiled sets stay aligned with their targets.

A call of the compiler pairs its targets with speeds, zones and axes by position, and numbers the
pairs.  `walked_parallel` follows a position through the broadcasts, the pairing and the walk;
`MoveAligned` and `AxisAligned` say what an emitter makes of it; and no two positions share a name,
since a number can be read off behind its stem (`itemName_inj`).  `compiled_set_aligned` puts this
together for every call.
-/

namespace RobotCell

/-! ## Parameter lists -/

/-- The entry of a parameter list at a position, and its first entry past its end. -/
def entryAt? {α : Type} (list : List α) (i : Nat) : Option α :=
  if i < list.length then list[i]? else list[0]?

/-- A list is extended by its first entry. -/
theorem getElem?_of_broadcast {α : Type} {label : String} {list extended : List α} {len i : Nat}
    (h : broadcast label list len = .ok extended) (hi : i < len) :
    extended[i]? = entryAt? list i := by
  cases list with
  | nil =>
      have hlen : len ≠ 0 := by omega
      simp [broadcast, hlen] at h
  | cons first rest =>
      rw [broadcast_cons] at h
      obtain rfl := Except.ok.inj h
      rw [entryAt?, List.getElem?_append]
      by_cases hin : i < (first :: rest).length
      · rw [if_pos hin, if_pos hin]
      · rw [if_neg hin, if_neg hin, List.getElem?_replicate, if_pos]
        · rfl
        · rw [List.length_cons] at hin ⊢
          omega

/-- A broadcast list is long enough. -/
theorem le_length_of_broadcast {α : Type} {label : String} {list extended : List α} {len : Nat}
    (h : broadcast label list len = .ok extended) : len ≤ extended.length := by
  cases list with
  | nil =>
      by_cases hlen : len = 0
      · omega
      · simp [broadcast, hlen] at h
  | cons first rest =>
      rw [broadcast_cons] at h
      obtain rfl := Except.ok.inj h
      simp only [List.length_append, List.length_cons, List.length_replicate]
      omega

/-- A walk gives one result for each item, from the item and its position. -/
theorem getElem?_of_emitFrom {α β : Type} {emit : Nat → α → Except Failure β} {n : Nat}
    {items : List α} {results : List β} (h : emitFrom n emit items = .ok results) :
    results.length = items.length ∧
      ∀ i item, items[i]? = some item →
        ∃ result, results[i]? = some result ∧ emit (n + i) item = .ok result := by
  induction items generalizing n results with
  | nil =>
      obtain rfl := Except.ok.inj h
      exact ⟨rfl, by simp⟩
  | cons first rest ih =>
      cases hfirst : emit n first with
      | error e => simp [emitFrom, hfirst] at h
      | ok result =>
          cases hrest : emitFrom (n + 1) emit rest with
          | error e => simp [emitFrom, hfirst, hrest] at h
          | ok more =>
              obtain rfl : result :: more = results := by simpa [emitFrom, hfirst, hrest] using h
              obtain ⟨hlen, hmore⟩ := ih hrest
              refine ⟨congrArg (· + 1) hlen, fun i item hitem => ?_⟩
              cases i with
              | zero =>
                  obtain rfl := Option.some.inj hitem
                  exact ⟨result, rfl, hfirst⟩
              | succ i =>
                  obtain ⟨result', hget, hemit⟩ := hmore i item hitem
                  exact ⟨result', hget, by rwa [Nat.add_right_comm, Nat.add_assoc] at hemit⟩

/-- What a set has at a position. -/
structure CompiledSet.HasAt (set : CompiledSet) (i : Nat) (d : Declaration) (s : Instruction) :
    Prop where
  declaration : set.declarations[i]? = some d
  instruction : set.instructions[i]? = some s

/-- The set of a walk has one declaration and one instruction for each item, emitted from it. -/
structure CompiledSet.Walked {α : Type} (set : CompiledSet) (items : List α)
    (emitted : Nat → α → Declaration → Instruction → Prop) : Prop where
  declarations_length : set.declarations.length = items.length
  instructions_length : set.instructions.length = items.length
  hasAt : ∀ i item, items[i]? = some item → ∃ d s, set.HasAt i d s ∧ emitted i item d s

theorem walked_ofPairs {α : Type} {emit : Nat → α → Except Failure (Declaration × Instruction)}
    {items : List α} {pairs : List (Declaration × Instruction)}
    (h : emitFrom 0 emit items = .ok pairs) :
    (CompiledSet.ofPairs pairs).Walked items fun i item d s => emit i item = .ok (d, s) := by
  obtain ⟨hlen, hget⟩ := getElem?_of_emitFrom h
  refine ⟨by simpa [CompiledSet.ofPairs] using hlen, by simpa [CompiledSet.ofPairs] using hlen,
    fun i item hitem => ?_⟩
  obtain ⟨⟨d, s⟩, hpair, hemit⟩ := hget i item hitem
  rw [Nat.zero_add] at hemit
  exact ⟨d, s, ⟨by simp [CompiledSet.ofPairs, hpair], by simp [CompiledSet.ofPairs, hpair]⟩, hemit⟩

theorem CompiledSet.Walked.imp {α : Type} {set : CompiledSet} {items : List α}
    {R S : Nat → α → Declaration → Instruction → Prop} (h : set.Walked items R)
    (himp : ∀ i item d s, R i item d s → S i item d s) : set.Walked items S where
  declarations_length := h.declarations_length
  instructions_length := h.instructions_length
  hasAt i item hitem := by
    obtain ⟨d, s, hset, hR⟩ := h.hasAt i item hitem
    exact ⟨d, s, hset, himp i item d s hR⟩

/-- Broadcast lists are long enough to be walked beside the items. -/
theorem length_zip_of_broadcast {α β γ : Type} {firstLabel secondLabel : String} {items : List α}
    {firsts firsts' : List β} {seconds seconds' : List γ}
    (hfirsts : broadcast firstLabel firsts items.length = .ok firsts')
    (hseconds : broadcast secondLabel seconds items.length = .ok seconds') :
    (items.zip (firsts'.zip seconds')).length = items.length := by
  have := le_length_of_broadcast hfirsts
  have := le_length_of_broadcast hseconds
  simp only [List.length_zip]
  omega

/-- An item stands beside the entries at its position. -/
theorem entries_of_zip {α β γ : Type} {firstLabel secondLabel : String} {items : List α}
    {firsts firsts' : List β} {seconds seconds' : List γ} {i : Nat} {item : α} {x : β} {y : γ}
    (hfirsts : broadcast firstLabel firsts items.length = .ok firsts')
    (hseconds : broadcast secondLabel seconds items.length = .ok seconds')
    (h : (items.zip (firsts'.zip seconds'))[i]? = some (item, x, y)) :
    items[i]? = some item ∧ entryAt? firsts i = some x ∧ entryAt? seconds i = some y := by
  obtain ⟨hitem, hparameters⟩ := List.getElem?_zip_eq_some.mp h
  obtain ⟨hx, hy⟩ := List.getElem?_zip_eq_some.mp hparameters
  obtain ⟨hi, -⟩ := List.getElem?_eq_some_iff.mp hitem
  exact ⟨hitem, getElem?_of_broadcast hfirsts hi ▸ hx, getElem?_of_broadcast hseconds hi ▸ hy⟩

/-- A walk beside two broadcast lists emits each item with the entries at its position. -/
theorem walked_parallel {α β γ : Type} {firstLabel secondLabel : String} {items : List α}
    {firsts firsts' : List β} {seconds seconds' : List γ}
    {emit : Nat → α × β × γ → Except Failure (Declaration × Instruction)}
    {pairs : List (Declaration × Instruction)}
    (h : emitFrom 0 emit (items.zip (firsts'.zip seconds')) = .ok pairs)
    (hfirsts : broadcast firstLabel firsts items.length = .ok firsts')
    (hseconds : broadcast secondLabel seconds items.length = .ok seconds') :
    (CompiledSet.ofPairs pairs).Walked items fun i item d s =>
      ∃ x y, entryAt? firsts i = some x ∧ entryAt? seconds i = some y ∧
        emit i (item, x, y) = .ok (d, s) := by
  have hlen := length_zip_of_broadcast hfirsts hseconds
  obtain ⟨hdecls, hinstrs, hat⟩ := walked_ofPairs h
  refine ⟨hdecls.trans hlen, hinstrs.trans hlen, fun i item hitem => ?_⟩
  obtain ⟨hi, -⟩ := List.getElem?_eq_some_iff.mp hitem
  obtain ⟨⟨item', x, y⟩, hzip⟩ : ∃ z, (items.zip (firsts'.zip seconds'))[i]? = some z :=
    ⟨_, List.getElem?_eq_getElem (hlen.symm ▸ hi)⟩
  obtain ⟨hitem', hx, hy⟩ := entries_of_zip hfirsts hseconds hzip
  obtain rfl : item = item' := Option.some.inj (hitem.symm.trans hitem')
  obtain ⟨d, s, hset, hemit⟩ := hat i _ hzip
  exact ⟨d, s, hset, x, y, hx, hy, hemit⟩

/-- Moves are emitted target by target, each with its speed and its zone. -/
theorem emitMoves_walked {α : Type} {points : List α} {m : MoveList} {set : CompiledSet}
    {emit : Nat → α × MotionParameter × MotionParameter → Except Failure (Declaration × Instruction)}
    (h : Compiler.emitMoves points m emit = .ok set) :
    set.Walked points fun i point d s =>
      ∃ speed zone, entryAt? m.speeds i = some speed ∧ entryAt? m.zones i = some zone ∧
        emit i (point, speed, zone) = .ok (d, s) := by
  unfold Compiler.emitMoves at h
  split at h
  · cases h
  rename_i speeds hspeeds
  split at h
  · cases h
  rename_i zones hzones
  split at h
  · cases h
  rename_i pairs hpairs
  obtain rfl := Except.ok.inj h
  exact walked_parallel hpairs hspeeds hzones

/-! ## Names -/

/-- The number of an item can be read off its name. -/
theorem itemName_inj {set : String} {i j : Nat} (h : itemName set i = itemName set j) : i = j := by
  have hdigits : Nat.toDigits 10 i = Nat.toDigits 10 j := by
    simpa [itemName, String.append_right_inj, Nat.toString_eq_repr, ← String.toList_inj,
      Nat.toList_repr] using h
  have hread := congrArg (Nat.ofDigitChars 10 · 0) hdigits
  simpa only [Nat.ofDigitChars_ten_toDigits] using hread

/-- The points on the way and the ends of arcs are named apart. -/
theorem itemName_cir_ne_to (set : String) (i j : Nat) :
    itemName ("cir" ++ set) i ≠ itemName ("to" ++ set) j := by
  intro h
  have hhead := congrArg (fun name => name.toList.head?) h
  simp [itemName, String.toList_append] at hhead

/-- Every declaration of a walk is emitted from an item. -/
theorem CompiledSet.Walked.exists_of_declaration {α : Type} {set : CompiledSet} {items : List α}
    {R : Nat → α → Declaration → Instruction → Prop} (h : set.Walked items R) {i : Nat}
    {d : Declaration} (hd : set.declarations[i]? = some d) : ∃ item s, R i item d s := by
  obtain ⟨hi, -⟩ := List.getElem?_eq_some_iff.mp hd
  obtain ⟨d', s, hset, hR⟩ := h.hasAt i _
    (List.getElem?_eq_getElem (h.declarations_length ▸ hi))
  obtain rfl := Option.some.inj (hd.symm.trans hset.declaration)
  exact ⟨_, s, hR⟩

/-- Every instruction of a walk is emitted from an item. -/
theorem CompiledSet.Walked.exists_of_instruction {α : Type} {set : CompiledSet} {items : List α}
    {R : Nat → α → Declaration → Instruction → Prop} (h : set.Walked items R) {s : Instruction}
    (hs : s ∈ set.instructions) : ∃ i item d, R i item d s := by
  obtain ⟨i, hi⟩ := List.mem_iff_getElem?.mp hs
  obtain ⟨hlt, -⟩ := List.getElem?_eq_some_iff.mp hi
  obtain ⟨d, s', hset, hR⟩ := h.hasAt i _
    (List.getElem?_eq_getElem (h.instructions_length ▸ hlt))
  obtain rfl := Option.some.inj (hi.symm.trans hset.instruction)
  exact ⟨i, _, d, hR⟩

/-- Declarations that put their positions behind the same stems share no names. -/
theorem CompiledSet.Walked.nodup_names {α : Type} {set : CompiledSet} {items : List α}
    {R : Nat → α → Declaration → Instruction → Prop} (h : set.Walked items R) (stems : List String)
    (hR : ∀ i item d s, R i item d s → d.names = stems.map (itemName · i)) (hstems : stems.Nodup)
    (hapart : ∀ p ∈ stems, ∀ q ∈ stems, ∀ i j, itemName p i = itemName q j → p = q) :
    set.names.Nodup := by
  have hnames (i : Nat) (d : Declaration) (hd : set.declarations[i]? = some d) :
      d.names = stems.map (itemName · i) := by
    obtain ⟨item, s, hs⟩ := h.exists_of_declaration hd
    exact hR i item d s hs
  rw [CompiledSet.names, List.nodup_iff_pairwise_ne, List.pairwise_flatMap]
  constructor
  · intro d hd
    obtain ⟨i, hi⟩ := List.mem_iff_getElem?.mp hd
    rw [hnames i d hi, List.pairwise_map]
    exact hstems.imp_of_mem fun hp hq hne h => hne (hapart _ hp _ hq i i h)
  · rw [List.pairwise_iff_getElem]
    intro i j hi hj hij x hx y hy
    rw [hnames i _ (List.getElem?_eq_getElem hi)] at hx
    rw [hnames j _ (List.getElem?_eq_getElem hj)] at hy
    obtain ⟨p, hp, rfl⟩ := List.mem_map.mp hx
    obtain ⟨q, hq, rfl⟩ := List.mem_map.mp hy
    intro h
    obtain rfl := hapart p hp q hq i j h
    exact absurd (itemName_inj h) (Nat.ne_of_lt hij)

/-! ## Calls -/

/-- A call of the compiler that makes a declaration and an instruction of each target. -/
inductive CompileCall where
  | moveL (targets : List Pose) (m : MoveList)
  | moveJ (targets : List Pose) (m : MoveList)
  | moveAbsJ (targets : List JointPose) (m : MoveList)
  | moveC (via destinations : List Pose) (m : MoveList)
  | indAMove (unit : String) (axes : List UInt8) (positions : List Binary64)
      (speeds : List MotionParameter) (set : String)

namespace CompileCall

def run (c : Compiler) : CompileCall → Except Failure CompiledSet
  | .moveL targets m => c.moveL targets m
  | .moveJ targets m => c.moveJ targets m
  | .moveAbsJ targets m => c.moveAbsJ targets m
  | .moveC via destinations m => c.moveC via destinations m
  | .indAMove unit axes positions speeds set => c.indAMove unit axes positions speeds set

/-- The number of targets. -/
def size : CompileCall → Nat
  | .moveL targets _ => targets.length
  | .moveJ targets _ => targets.length
  | .moveAbsJ targets _ => targets.length
  | .moveC _ destinations _ => destinations.length
  | .indAMove _ _ positions _ _ => positions.length

end CompileCall

/-! ## Statements -/

namespace Statement

/-- The speed operand. -/
def speed? : Statement → Option String
  | .move _ _ speed _ _ => some speed
  | .moveC _ _ speed _ _ => some speed
  | .indAMove _ _ _ speed => some speed
  | .indReset .. | .custom _ => none

/-- The zone operand. -/
def zone? : Statement → Option String
  | .move _ _ _ zone _ => some zone
  | .moveC _ _ _ zone _ => some zone
  | .indAMove .. | .indReset .. | .custom _ => none

/-- The names of the data that the instruction refers to, in order. -/
def references : Statement → List String
  | .move _ target _ _ _ => [target]
  | .moveC via target _ _ _ => [via, target]
  | .indAMove _ _ position _ => [position]
  | .indReset .. | .custom _ => []

end Statement

/-- An instruction says what a statement says: it has its text, and names its opcode, its speed and
its zone. -/
structure Instruction.Says (s : Instruction) (statement : Statement) : Prop where
  opcode : s.opcode = statement.opcode
  speed : s.speed = statement.speed?
  zone : s.zone = statement.zone?
  text : s.text = statement.text

/-! ## Alignment -/

/-- The line that declares a datum with a value. -/
def dataLine (keyword type name value : String) : String :=
  "\n\t" ++ keyword ++ " " ++ type ++ " " ++ name ++ ":=" ++ value ++ ";"

/-- A declaration and an instruction are those of position `i`: they carry it, the declaration
binds the given names to the given literals, and the instruction refers to exactly these names. -/
structure DataAligned (keyword type : String) (data : List (String × String)) (i : Nat)
    (d : Declaration) (s : Instruction) : Prop where
  declaration_index : d.index = i
  instruction_index : s.index = i
  names : d.names = data.map (·.1)
  text : d.text = String.join (data.map fun x => dataLine keyword type x.1 x.2)
  statement : ∃ statement, s.Says statement ∧ statement.references = d.names

/-- A symbol is what the entry of a parameter list at a position stands for. -/
def Resolves (catalog : Catalog) (list : List MotionParameter) (i : Nat) (symbol : String) : Prop :=
  ∃ parameter, entryAt? list i = some parameter ∧ parameter.resolve catalog = .ok symbol

/-- A move is aligned: its data are, and its text goes on with the speed, the zone and the frames;
its speed and its zone are those of its text. -/
structure MoveAligned (c : Compiler) (opcode type : String) (m : MoveList)
    (data : List (String × String)) (i : Nat) (d : Declaration) (s : Instruction) : Prop where
  data : DataAligned "CONST" type data i d s
  operands : ∃ speed zone,
    Resolves c.speeds m.speeds i speed ∧ Resolves c.zones m.zones i zone ∧
      s.speed = some speed ∧ s.zone = some zone ∧
      s.text = "\n\t\t" ++ opcode ++ " " ++
        ",".intercalate (d.names ++ [speed, zone, m.frames.tool ++ "\\WObj:=" ++ m.frames.wobj]) ++
        ";"

/-- A move of an independent axis is aligned: its angle is, and its text names the axis, the angle
and the speed; it has no zone. -/
structure AxisAligned (c : Compiler) (unit : String) (axes : List UInt8)
    (speeds : List MotionParameter) (name value : String) (i : Nat) (d : Declaration)
    (s : Instruction) : Prop where
  data : DataAligned "VAR" "num" [(name, value)] i d s
  operands : ∃ speed axis,
    Resolves c.speeds speeds i speed ∧ entryAt? axes i = some axis ∧
      s.speed = some speed ∧ s.zone = none ∧
      s.text = "\n\t\tIndAMove " ++ unit ++ "," ++ toString axis ++ "\\ToAbsNum:=" ++ name ++ "," ++
        speed ++ ";"

/-- What a call puts at position `i` of its set. -/
def CompileCall.AlignedAt (c : Compiler) (i : Nat) (d : Declaration) (s : Instruction) :
    CompileCall → Prop
  | .moveL targets m => ∃ p, targets[i]? = some p ∧
      MoveAligned c "MoveL" "robtarget" m [(m.set ++ toString i, p.literal)] i d s
  | .moveJ targets m => ∃ p, targets[i]? = some p ∧
      MoveAligned c "MoveJ" "robtarget" m [(m.set ++ toString i, p.literal)] i d s
  | .moveAbsJ targets m => ∃ p, targets[i]? = some p ∧
      MoveAligned c "MoveAbsJ" "jointtarget" m [(m.set ++ toString i, p.literal)] i d s
  | .moveC via destinations m => ∃ p q, via[i]? = some p ∧ destinations[i]? = some q ∧
      MoveAligned c "MoveC" "robtarget" m
        [("cir" ++ m.set ++ toString i, p.literal), ("to" ++ m.set ++ toString i, q.literal)] i d s
  | .indAMove unit axes positions speeds set => ∃ angle, positions[i]? = some angle ∧
      AxisAligned c unit axes speeds (set ++ toString i) (numberText angle) i d s

/-! ## Texts -/

theorem Statement.text_move (kind : MoveKind) (target speed zone : String) (frames : Frames) :
    (Statement.move kind target speed zone frames).text = "\n\t\t" ++
      (kind.opcode ++ " " ++ target ++ "," ++ speed ++ "," ++ zone ++ "," ++ frames.text) ++ ";" :=
  rfl

theorem Statement.text_moveC (via target speed zone : String) (frames : Frames) :
    (Statement.moveC via target speed zone frames).text = "\n\t\t" ++
      ("MoveC " ++ via ++ "," ++ target ++ "," ++ speed ++ "," ++ zone ++ "," ++ frames.text) ++
      ";" := rfl

theorem Statement.text_indAMove (unit : String) (axis : UInt8) (position speed : String) :
    (Statement.indAMove unit axis position speed).text = "\n\t\t" ++
      ("IndAMove " ++ unit ++ "," ++ toString axis ++ "\\ToAbsNum:=" ++ position ++ "," ++ speed) ++
      ";" := rfl

/-! ## Emitting -/

namespace Compiler

/-- The two symbols are those of the two parameters. -/
theorem resolvePair_ok {c : Compiler} {speed zone : MotionParameter} {symbols : String × String}
    (h : c.resolvePair speed zone = .ok symbols) :
    speed.resolve c.speeds = .ok symbols.1 ∧ zone.resolve c.zones = .ok symbols.2 := by
  unfold resolvePair at h
  split at h
  · cases h
  rename_i hspeed
  split at h
  · cases h
  rename_i hzone
  obtain rfl := Except.ok.inj h
  exact ⟨hspeed, hzone⟩

theorem emitMove_aligned {c : Compiler} {kind : MoveKind} {m : MoveList} {i : Nat}
    {target : Target} {speed zone : MotionParameter} {d : Declaration} {s : Instruction}
    (hspeed : entryAt? m.speeds i = some speed) (hzone : entryAt? m.zones i = some zone)
    (h : c.emitMove kind m i (target, speed, zone) = .ok (d, s)) :
    MoveAligned c kind.opcode target.dataType m [(m.set ++ toString i, target.literal)] i d s := by
  unfold emitMove at h
  split at h
  · cases h
  rename_i speedSymbol zoneSymbol hpair
  cases h
  obtain ⟨hspeed', hzone'⟩ := resolvePair_ok hpair
  refine ⟨⟨rfl, rfl, rfl, ?_, _, ⟨rfl, rfl, rfl, rfl⟩, rfl⟩, speedSymbol, zoneSymbol,
    ⟨speed, hspeed, hspeed'⟩, ⟨zone, hzone, hzone'⟩, rfl, rfl, ?_⟩
  · rw [List.map_singleton, String.join_cons, String.join_nil, String.append_empty]
    rfl
  · simp [Statement.text_move, Frames.text, itemName, String.intercalate_cons_cons,
      String.append_assoc]

theorem emitArc_aligned {c : Compiler} {m : MoveList} {i : Nat} {p q : Pose}
    {speed zone : MotionParameter} {d : Declaration} {s : Instruction}
    (hspeed : entryAt? m.speeds i = some speed) (hzone : entryAt? m.zones i = some zone)
    (h : c.emitArc m i ((p, q), speed, zone) = .ok (d, s)) :
    MoveAligned c "MoveC" "robtarget" m
      [("cir" ++ m.set ++ toString i, p.literal), ("to" ++ m.set ++ toString i, q.literal)]
      i d s := by
  unfold emitArc at h
  split at h
  · cases h
  rename_i speedSymbol zoneSymbol hpair
  cases h
  obtain ⟨hspeed', hzone'⟩ := resolvePair_ok hpair
  refine ⟨⟨rfl, rfl, rfl, ?_, _, ⟨rfl, rfl, rfl, rfl⟩, rfl⟩, speedSymbol, zoneSymbol,
    ⟨speed, hspeed, hspeed'⟩, ⟨zone, hzone, hzone'⟩, rfl, rfl, ?_⟩
  · rw [List.map_cons, List.map_singleton, String.join_cons, String.join_cons, String.join_nil,
      String.append_empty]
    rfl
  · simp [Statement.text_moveC, Frames.text, itemName, String.intercalate_cons_cons,
      ← String.toList_inj]

theorem emitAxisMove_aligned {c : Compiler} {unit set : String} {axes : List UInt8}
    {speeds : List MotionParameter} {i : Nat} {angle : Binary64} {axis : UInt8}
    {speed : MotionParameter} {d : Declaration} {s : Instruction}
    (haxis : entryAt? axes i = some axis) (hspeed : entryAt? speeds i = some speed)
    (h : c.emitAxisMove unit set i (angle, axis, speed) = .ok (d, s)) :
    AxisAligned c unit axes speeds (set ++ toString i) (numberText angle) i d s := by
  unfold emitAxisMove at h
  split at h
  · cases h
  rename_i symbol hsymbol
  cases h
  refine ⟨⟨rfl, rfl, rfl, ?_, _, ⟨rfl, rfl, rfl, rfl⟩, rfl⟩, symbol, axis,
    ⟨speed, hspeed, hsymbol⟩, haxis, rfl, rfl, ?_⟩
  · rw [List.map_singleton, String.join_cons, String.join_nil, String.append_empty]
    rfl
  · simp [Statement.text_indAMove, itemName, ← String.toList_inj]

/-- A call that lists its targets is aligned with them. -/
theorem moves_walked {c : Compiler} {kind : MoveKind} {targets : List Target} {m : MoveList}
    {set : CompiledSet} (h : c.moves kind targets m = .ok set) :
    set.Walked targets fun i target d s =>
      MoveAligned c kind.opcode target.dataType m [(m.set ++ toString i, target.literal)] i d s := by
  unfold moves at h
  split at h
  · cases h
  split at h
  · cases h
  · exact (emitMoves_walked h).imp fun i target d s ⟨_, _, hspeed, hzone, hemit⟩ =>
      emitMove_aligned hspeed hzone hemit

theorem moveC_walked {c : Compiler} {via destinations : List Pose} {m : MoveList}
    {set : CompiledSet} (h : c.moveC via destinations m = .ok set) :
    via.length = destinations.length ∧
      set.Walked (via.zip destinations) fun i x d s =>
        MoveAligned c "MoveC" "robtarget" m
          [("cir" ++ m.set ++ toString i, x.1.literal), ("to" ++ m.set ++ toString i, x.2.literal)]
          i d s := by
  unfold moveC at h
  split at h
  · cases h
  split at h
  · cases h
  rename_i hlen
  split at h
  · cases h
  · exact ⟨Decidable.not_not.mp hlen, (emitMoves_walked h).imp
      fun i x d s ⟨_, _, hspeed, hzone, hemit⟩ => emitArc_aligned hspeed hzone hemit⟩

theorem indAMove_walked {c : Compiler} {unit set : String} {axes : List UInt8}
    {positions : List Binary64} {speeds : List MotionParameter} {compiled : CompiledSet}
    (h : c.indAMove unit axes positions speeds set = .ok compiled) :
    compiled.Walked positions fun i angle d s =>
      AxisAligned c unit axes speeds (set ++ toString i) (numberText angle) i d s := by
  unfold indAMove at h
  split at h
  · cases h
  split at h
  · cases h
  rename_i axes' haxes
  split at h
  · cases h
  rename_i speeds' hspeeds
  split at h
  · cases h
  rename_i pairs hpairs
  obtain rfl := Except.ok.inj h
  exact (walked_parallel hpairs haxes hspeeds).imp
    fun i angle d s ⟨_, _, haxis, hspeed, hemit⟩ => emitAxisMove_aligned haxis hspeed hemit

end Compiler

/-! ## Compiled sets -/

/-- The set of a call is aligned with its targets: it has one declaration and one instruction for
each, at its position, and no name twice. -/
structure CompileCall.Aligned (c : Compiler) (call : CompileCall) (set : CompiledSet) : Prop where
  declarations_length : set.declarations.length = call.size
  instructions_length : set.instructions.length = call.size
  aligned : ∀ i < call.size, ∃ d s, set.HasAt i d s ∧ call.AlignedAt c i d s
  nodup_names : set.names.Nodup

theorem CompileCall.AlignedAt.index_eq {c : Compiler} {call : CompileCall} {i : Nat}
    {d : Declaration} {s : Instruction} (h : call.AlignedAt c i d s) : d.index = i ∧ s.index = i := by
  cases call with
  | moveL | moveJ | moveAbsJ =>
      obtain ⟨_, -, hs⟩ := h
      exact ⟨hs.data.declaration_index, hs.data.instruction_index⟩
  | moveC =>
      obtain ⟨_, _, -, -, hs⟩ := h
      exact ⟨hs.data.declaration_index, hs.data.instruction_index⟩
  | indAMove =>
      obtain ⟨_, -, hs⟩ := h
      exact ⟨hs.data.declaration_index, hs.data.instruction_index⟩

/-- The indices of an aligned set are positions in it. -/
theorem CompileCall.Aligned.index_lt {c : Compiler} {call : CompileCall} {set : CompiledSet}
    (h : call.Aligned c set) :
    (∀ d ∈ set.declarations, d.index < set.instructions.length) ∧
      ∀ s ∈ set.instructions, s.index < set.instructions.length := by
  rw [h.instructions_length]
  constructor
  · intro d hd
    obtain ⟨i, hi, rfl⟩ := List.mem_iff_getElem.mp hd
    rw [h.declarations_length] at hi
    obtain ⟨d', s, hset, hat⟩ := h.aligned i hi
    obtain ⟨_, rfl⟩ := List.getElem?_eq_some_iff.mp hset.declaration
    rw [hat.index_eq.1]
    exact hi
  · intro s hs
    obtain ⟨i, hi, rfl⟩ := List.mem_iff_getElem.mp hs
    rw [h.instructions_length] at hi
    obtain ⟨d, s', hset, hat⟩ := h.aligned i hi
    obtain ⟨_, rfl⟩ := List.getElem?_eq_some_iff.mp hset.instruction
    rw [hat.index_eq.2]
    exact hi

/-- A walk is aligned once its items are the targets of the call. -/
theorem CompiledSet.Walked.aligned {α : Type} {c : Compiler} {call : CompileCall}
    {set : CompiledSet} {items : List α} {R : Nat → α → Declaration → Instruction → Prop}
    (h : set.Walked items R) (hlen : items.length = call.size)
    (hR : ∀ i item d s, items[i]? = some item → R i item d s → call.AlignedAt c i d s)
    (hnames : set.names.Nodup) : call.Aligned c set where
  declarations_length := h.declarations_length.trans hlen
  instructions_length := h.instructions_length.trans hlen
  aligned i hi := by
    have hitem := List.getElem?_eq_getElem (hlen.symm ▸ hi : i < items.length)
    obtain ⟨d, s, hset, hs⟩ := h.hasAt i _ hitem
    exact ⟨d, s, hset, hR i _ d s hitem hs⟩
  nodup_names := hnames

namespace Compiler

/-- The names of a set with one datum for each target. -/
theorem nodup_names_moves {c : Compiler} {kind : MoveKind} {targets : List Target} {m : MoveList}
    {set : CompiledSet} (h : c.moves kind targets m = .ok set) : set.names.Nodup :=
  (moves_walked h).nodup_names [m.set] (fun _ _ _ _ hs => hs.data.names) (by simp) (by simp)

theorem nodup_names_indAMove {c : Compiler} {unit set : String} {axes : List UInt8}
    {positions : List Binary64} {speeds : List MotionParameter} {compiled : CompiledSet}
    (h : c.indAMove unit axes positions speeds set = .ok compiled) : compiled.names.Nodup :=
  (indAMove_walked h).nodup_names [set] (fun _ _ _ _ hs => hs.data.names) (by simp) (by simp)

/-- The names of a set with two points for each arc. -/
theorem nodup_names_moveC {c : Compiler} {via destinations : List Pose} {m : MoveList}
    {set : CompiledSet} (h : c.moveC via destinations m = .ok set) : set.names.Nodup := by
  refine (moveC_walked h).2.nodup_names ["cir" ++ m.set, "to" ++ m.set]
    (fun _ _ _ _ hs => hs.data.names) ?_ ?_
  · simp
  · intro p hp q hq i j hname
    simp only [List.mem_cons, List.not_mem_nil, or_false] at hp hq
    rcases hp with rfl | rfl <;> rcases hq with rfl | rfl
    · rfl
    · exact absurd hname (itemName_cir_ne_to m.set i j)
    · exact absurd hname.symm (itemName_cir_ne_to m.set j i)
    · rfl

/-- The set of a call that lists its targets. -/
theorem moves_aligned {c : Compiler} {call : CompileCall} {kind : MoveKind} {α : Type}
    {points : List α} {toTarget : α → Target} {m : MoveList} {set : CompiledSet}
    (h : c.moves kind (points.map toTarget) m = .ok set) (hsize : points.length = call.size)
    (hR : ∀ i p d s, points[i]? = some p → MoveAligned c kind.opcode (toTarget p).dataType m
      [(m.set ++ toString i, (toTarget p).literal)] i d s → call.AlignedAt c i d s) :
    call.Aligned c set := by
  refine (moves_walked h).aligned ((List.length_map _).trans hsize) (fun i target d s ht hs => ?_)
    (nodup_names_moves h)
  rw [List.getElem?_map, Option.map_eq_some_iff] at ht
  obtain ⟨p, hp, rfl⟩ := ht
  exact hR i p d s hp hs

theorem moveL_aligned {c : Compiler} {targets : List Pose} {m : MoveList} {set : CompiledSet}
    (h : c.moveL targets m = .ok set) : (CompileCall.moveL targets m).Aligned c set :=
  moves_aligned h rfl fun _ p _ _ hp hs => ⟨p, hp, hs⟩

theorem moveJ_aligned {c : Compiler} {targets : List Pose} {m : MoveList} {set : CompiledSet}
    (h : c.moveJ targets m = .ok set) : (CompileCall.moveJ targets m).Aligned c set :=
  moves_aligned h rfl fun _ p _ _ hp hs => ⟨p, hp, hs⟩

theorem moveAbsJ_aligned {c : Compiler} {targets : List JointPose} {m : MoveList}
    {set : CompiledSet} (h : c.moveAbsJ targets m = .ok set) :
    (CompileCall.moveAbsJ targets m).Aligned c set :=
  moves_aligned h rfl fun _ p _ _ hp hs => ⟨p, hp, hs⟩

theorem moveC_aligned {c : Compiler} {via destinations : List Pose} {m : MoveList}
    {set : CompiledSet} (h : c.moveC via destinations m = .ok set) :
    (CompileCall.moveC via destinations m).Aligned c set := by
  obtain ⟨hlen, hwalked⟩ := moveC_walked h
  refine hwalked.aligned (by simp [CompileCall.size, hlen]) (fun i x d s hx hs => ?_)
    (nodup_names_moveC h)
  obtain ⟨hvia, hdestination⟩ := List.getElem?_zip_eq_some.mp hx
  exact ⟨x.1, x.2, hvia, hdestination, hs⟩

end Compiler

/-- **A compiled set is aligned with its targets.** For every catalog and every call that
succeeds, whatever the lengths of its parallel lists. -/
theorem compiled_set_aligned {c : Compiler} {call : CompileCall} {set : CompiledSet}
    (h : call.run c = .ok set) : call.Aligned c set := by
  cases call with
  | moveL targets m => exact Compiler.moveL_aligned h
  | moveJ targets m => exact Compiler.moveJ_aligned h
  | moveAbsJ targets m => exact Compiler.moveAbsJ_aligned h
  | moveC via destinations m => exact Compiler.moveC_aligned h
  | indAMove unit axes positions speeds set =>
      exact (Compiler.indAMove_walked h).aligned rfl
        (fun i angle d s hangle hs => ⟨angle, hangle, hs⟩) (Compiler.nodup_names_indAMove h)

/-- Two targets with one speed and three zones. -/
theorem compiled_set_aligned_short_speeds :
    ∃ call set, CompileCall.run {} call = .ok set ∧ call.Aligned {} set ∧
      set.names = ["p0", "p1"] ∧
      set.instructionTexts = ["\n\t\tMoveAbsJ p0,v100,fine,tool0\\WObj:=wobj0;",
        "\n\t\tMoveAbsJ p1,v100,z10,tool0\\WObj:=wobj0;"] := by
  let call : CompileCall :=
    .moveAbsJ [⟨Vector.replicate 6 0, .unused⟩, ⟨Vector.replicate 6 1, .unused⟩]
      ⟨"p", [.level 110], [.symbol "fine", .level 12, .symbol "z5"], {}⟩
  have htexts : (call.run {}).toOption.map (fun set => (set.names, set.instructionTexts)) =
      some (["p0", "p1"], ["\n\t\tMoveAbsJ p0,v100,fine,tool0\\WObj:=wobj0;",
        "\n\t\tMoveAbsJ p1,v100,z10,tool0\\WObj:=wobj0;"]) := by decide +kernel
  cases hrun : call.run {} with
  | error e => simp [hrun, Except.toOption] at htexts
  | ok set =>
      rw [hrun] at htexts
      obtain ⟨hnames, hinstructions⟩ := Prod.mk.inj (Option.some.inj htexts)
      exact ⟨call, set, hrun, compiled_set_aligned hrun, hnames, hinstructions⟩

end RobotCell
