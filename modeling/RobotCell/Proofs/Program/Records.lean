import RobotCell.Proofs.Controller.Rendering

/-!
# RobotCell.Proofs.Program.Records

The records that a program declares read back.

`DataRecord.tree` writes each record out as the nested list of its fields, as the controller
documents them.  What a builder puts between the assignment sign and the semicolon is read as that
list, up to the signs of zeros: field by field (`printed_numberText`, `printed_flagText`,
`printed_intText`), group by group (`PrintedAll.bracketed`).  Tools and work objects have a second
writer, that of the values on the controller; `ToolData.literal` and `WobjData.literal` give the
very same texts, so that reading a record as a value and writing it again changes nothing.
-/

namespace RobotCell

/-! ## Trees without signs of zeros -/

namespace Literal

mutual

/-- The literal without the signs of its zeros. -/
def unsigned : Literal → Literal
  | .list items => .list (unsignedAll items)
  | .num x => .num x.dropZeroSign
  | .bool b => .bool b
  | .str s => .str s

def unsignedAll : List Literal → List Literal
  | [] => []
  | t :: ts => t.unsigned :: unsignedAll ts

end

/-- Signs of zeros are dropped tree by tree. -/
theorem unsignedAll_append (ts us : List Literal) :
    unsignedAll (ts ++ us) = unsignedAll ts ++ unsignedAll us := by
  induction ts with
  | nil => rfl
  | cons t ts ih => rw [List.cons_append, unsignedAll, ih, unsignedAll, List.cons_append]

/-- A list of numbers. -/
def numbers (xs : List Binary64) : Literal := .list (xs.map .num)

end Literal

/-- A whole number has no negative zero. -/
theorem dropZeroSign_ofInt {i : Int} (h : i.natAbs < significandLimit) :
    (Binary64.ofInt i).dropZeroSign = .ofInt i := by
  unfold Binary64.dropZeroSign
  split
  · rename_i hzero
    rw [ofInt_of_lt h] at hzero
    have hunits : i.natAbs * unitsPerOne = 0 := beq_iff_eq.mp hzero
    obtain rfl : i = 0 := Int.natAbs_eq_zero.mp
      ((Nat.mul_eq_zero.mp hunits).resolve_right (Nat.ne_of_gt unitsPerOne_pos))
    decide +kernel
  · rfl

/-! ## Texts that show a tree -/

/-- Two lists of printed texts are one. -/
theorem PrintedAll.append {texts texts' : List String} {ts ts' : List Literal}
    (h : PrintedAll texts ts) (h' : PrintedAll texts' ts') :
    PrintedAll (texts ++ texts') (ts ++ ts') := by
  induction h with
  | nil => exact h'
  | cons head _ ih => exact .cons head ih

/-- Texts that are read as the trees of a list, up to the signs of zeros. -/
def ShowsAll (texts : List String) (ts : List Literal) : Prop :=
  PrintedAll texts (Literal.unsignedAll ts)

namespace ShowsAll

variable {text : String} {t : Literal} {texts texts' : List String} {ts ts' : List Literal}

theorem nil : ShowsAll [] [] := PrintedAll.nil

theorem cons (head : Printed text t.unsigned) (tail : ShowsAll texts ts) :
    ShowsAll (text :: texts) (t :: ts) := PrintedAll.cons head tail

theorem flag (b : Bool) (tail : ShowsAll texts ts) :
    ShowsAll (flagText b :: texts) (.bool b :: ts) := cons (printed_flagText b) tail

theorem number (x : Binary64) (tail : ShowsAll texts ts) :
    ShowsAll (numberText x :: texts) (.num x :: ts) := cons (printed_numberText x) tail

/-- A text alone. -/
theorem single (h : Printed text t.unsigned) : ShowsAll [text] [t] := cons h nil

/-- Two lists of fields are one. -/
theorem append (h : ShowsAll texts ts) (h' : ShowsAll texts' ts') :
    ShowsAll (texts ++ texts') (ts ++ ts') := by
  unfold ShowsAll
  rw [Literal.unsignedAll_append]
  exact PrintedAll.append h h'

/-- Numbers are fields one by one. -/
theorem numbers (xs : List Binary64) : ShowsAll (xs.map numberText) (xs.map .num) := by
  induction xs with
  | nil => exact nil
  | cons x xs ih => exact number x ih

/-- Fields in brackets are one value, and may be a field themselves. -/
theorem bracketed (h : ShowsAll texts ts) (hne : texts ≠ []) :
    Printed (bracketed texts) (Literal.list ts).unsigned :=
  PrintedAll.bracketed h hne

end ShowsAll

/-- Numbers in brackets are one field. -/
theorem printed_numbers {xs : List Binary64} (hne : xs ≠ []) :
    Printed (numbersText xs) (Literal.numbers xs).unsigned :=
  (ShowsAll.numbers xs).bracketed (by simpa using hne)

/-- A quadrant is written as a whole number. -/
theorem printed_quadrant (q : Int32) :
    Printed (quadrantText q) (Literal.num (.ofInt q.toInt)).unsigned := by
  rw [Literal.unsigned, dropZeroSign_ofInt (natAbs_toInt_lt q)]
  exact printed_intText (natAbs_toInt_lt q)

/-- A byte is written as a whole number. -/
theorem printed_byteText (n : UInt8) :
    Printed (toString n) (Literal.num (.ofInt n.toNat)).unsigned := by
  have hlt : (n.toNat : Int).natAbs < significandLimit :=
    Nat.lt_trans (by simpa using n.toNat_lt) (by decide : 256 < significandLimit)
  rw [Literal.unsigned, dropZeroSign_ofInt hlt]
  exact printed_intText hlt

/-! ## Records -/

/-- A record that a program can declare. -/
inductive DataRecord where
  | speed (vTcp vOri vLeax vReax : Binary64)
  | zone (z : ZoneData)
  | load (l : LoadData)
  | conf (c : ArmConfiguration)
  | tool (frame : Pose) (mass : Binary64)
  | wobj (frame : Pose)
  | motset (m : MotionSettings)

namespace DataRecord

/-- The declaration of a record. -/
def binding (name : String) : DataRecord → Binding
  | .speed vTcp vOri vLeax vReax => speedData name vTcp vOri vLeax vReax
  | .zone z => zoneData name z
  | .load l => loadData name l
  | .conf c => confData name c
  | .tool frame mass => toolData name frame mass
  | .wobj frame => wobjData name frame
  | .motset m => motsetData name m

/-- How long a record lives, as it is declared. -/
def keyword : DataRecord → String
  | .speed .. | .zone _ | .motset _ => "VAR"
  | .load _ | .conf _ | .tool .. => "PERS"
  | .wobj _ => "TASK PERS"

def dataType : DataRecord → String
  | .speed .. => "speeddata"
  | .zone _ => "zonedata"
  | .load _ => "loaddata"
  | .conf _ => "confdata"
  | .tool .. => "tooldata"
  | .wobj _ => "wobjdata"
  | .motset _ => "motsetdata"

/-- The position and orientation of a frame. -/
def frameTree (p : Pose) : Literal :=
  .list [.numbers p.position.toList, .numbers p.orientation.toList]

/-- Mass, centre of gravity, axes of moment and moments of inertia. -/
def loadTree (mass : Binary64) (cog aom inertia : List Binary64) : Literal :=
  .list ([.num mass, .numbers cog, .numbers aom] ++ inertia.map .num)

/-- Whether a limit is enabled, and its value, -1 when it is not. -/
def limitTrees : Option Binary64 → List Literal
  | some x => [.bool true, .num x]
  | none => [.bool false, .num (-1)]

/-- The fields of a record, in the order of the controller. -/
def tree : DataRecord → Literal
  | .speed vTcp vOri vLeax vReax => .numbers [vTcp, vOri, vLeax, vReax]
  | .zone z =>
    .list [.bool z.finep, .num z.pzoneTcp, .num z.pzoneOri, .num z.pzoneEax, .num z.zoneOri,
      .num z.zoneLeax, .num z.zoneReax]
  | .load l => loadTree l.mass l.cog.toList l.aom.toList l.inertia.toList
  | .conf c =>
    .list [.num (.ofInt c.cf1.toInt), .num (.ofInt c.cf4.toInt), .num (.ofInt c.cf6.toInt),
      .num (.ofInt c.cfx.toInt)]
  | .tool frame mass =>
    .list [.bool true, frameTree frame, loadTree mass [0, 0, 0.001] [1, 0, 0, 0] [0, 0, 0]]
  | .wobj frame =>
    .list [.bool false, .bool true, .str "", frameTree frame,
      .list [.numbers [0, 0, 0], .numbers [1, 0, 0, 0]]]
  | .motset m =>
    .list ([.numbers [m.velOride, m.velMax], .numbers [m.accAcc, m.accRamp],
      .list [.bool m.singWrist, .bool m.singArm, .bool m.singBase],
      .list [.bool m.confJsup, .bool m.confLsup, .num m.confAx1, .num m.confAx4, .num m.confAx6],
      .num m.pathresol, .bool m.motionsup, .num m.tunevalue] ++
      limitTrees m.accmax ++ limitTrees m.decelmax ++ [.num (.ofInt m.cirpathreori.toNat)] ++
      limitTrees m.worldaccmax ++ [.bool m.evtbufferact])

/-! ## Fields -/

/-- A frame is written as its position and its orientation. -/
theorem printed_frame (p : Pose) : Printed p.frameLiteral (frameTree p).unsigned := by
  have hposition : p.position.toList ≠ [] := List.ne_nil_of_length_pos (by simp)
  have horientation : p.orientation.toList ≠ [] := List.ne_nil_of_length_pos (by simp)
  exact ShowsAll.bracketed
    (.cons (printed_numbers hposition) (.cons (printed_numbers horientation) .nil)) (by simp)

/-- A load is written with its moments one by one. -/
theorem showsAll_load (l : LoadData) :
    ShowsAll ([numberText l.mass, numbersText l.cog.toList, numbersText l.aom.toList] ++
        l.inertia.toList.map numberText)
      ([.num l.mass, .numbers l.cog.toList, .numbers l.aom.toList] ++ l.inertia.toList.map .num) := by
  have hcog : l.cog.toList ≠ [] := List.ne_nil_of_length_pos (by simp)
  have haom : l.aom.toList ≠ [] := List.ne_nil_of_length_pos (by simp)
  exact .number l.mass
    (.cons (printed_numbers hcog) (.cons (printed_numbers haom) (.numbers l.inertia.toList)))

/-- A limit is written as a flag and a value, -1 when it is not enabled. -/
theorem showsAll_limit (limit : Option Binary64) :
    ShowsAll (limitFields limit) (limitTrees limit) := by
  cases limit with
  | some x => exact .flag true (.number x .nil)
  | none =>
      have hread : Binary64.ofChars? "-1".toList = some (Binary64.dropZeroSign (-1)) := by
        decide +kernel
      have hdisabled : Printed "-1" (Literal.num (-1)).unsigned :=
        printed_scalar (List.all_eq_true.mp (by decide)) (scalarValue?_of_ofChars? hread)
      exact .flag false (.cons hdisabled .nil)

/-- The settings before the limits, in their four groups and one by one. -/
theorem showsAll_motset (m : MotionSettings) :
    ShowsAll [numbersText [m.velOride, m.velMax], numbersText [m.accAcc, m.accRamp],
        bracketed [flagText m.singWrist, flagText m.singArm, flagText m.singBase],
        bracketed [flagText m.confJsup, flagText m.confLsup, numberText m.confAx1,
          numberText m.confAx4, numberText m.confAx6],
        numberText m.pathresol, flagText m.motionsup, numberText m.tunevalue]
      [.numbers [m.velOride, m.velMax], .numbers [m.accAcc, m.accRamp],
        .list [.bool m.singWrist, .bool m.singArm, .bool m.singBase],
        .list [.bool m.confJsup, .bool m.confLsup, .num m.confAx1, .num m.confAx4, .num m.confAx6],
        .num m.pathresol, .bool m.motionsup, .num m.tunevalue] := by
  have hvelocity : Printed (numbersText [m.velOride, m.velMax])
      (Literal.numbers [m.velOride, m.velMax]).unsigned := printed_numbers (by simp)
  have hacceleration : Printed (numbersText [m.accAcc, m.accRamp])
      (Literal.numbers [m.accAcc, m.accRamp]).unsigned := printed_numbers (by simp)
  have hsing : ShowsAll [flagText m.singWrist, flagText m.singArm, flagText m.singBase]
      [.bool m.singWrist, .bool m.singArm, .bool m.singBase] :=
    .flag m.singWrist (.flag m.singArm (.flag m.singBase .nil))
  have hconf : ShowsAll [flagText m.confJsup, flagText m.confLsup, numberText m.confAx1,
      numberText m.confAx4, numberText m.confAx6] [.bool m.confJsup, .bool m.confLsup,
        .num m.confAx1, .num m.confAx4, .num m.confAx6] :=
    .flag m.confJsup (.flag m.confLsup (.numbers [m.confAx1, m.confAx4, m.confAx6]))
  have hscalars : ShowsAll
      [numberText m.pathresol, flagText m.motionsup, numberText m.tunevalue]
      [.num m.pathresol, .bool m.motionsup, .num m.tunevalue] :=
    .number m.pathresol (.flag m.motionsup (.number m.tunevalue .nil))
  have hgroups := ShowsAll.cons (hsing.bracketed (by simp))
    (ShowsAll.cons (hconf.bracketed (by simp)) hscalars)
  exact .cons hvelocity (.cons hacceleration hgroups)

/-- The limits and the settings between them. -/
theorem showsAll_motset_limits (m : MotionSettings) :
    ShowsAll
      (limitFields m.accmax ++ limitFields m.decelmax ++ [toString m.cirpathreori] ++
        limitFields m.worldaccmax ++ [flagText m.evtbufferact])
      (limitTrees m.accmax ++ limitTrees m.decelmax ++ [.num (.ofInt m.cirpathreori.toNat)] ++
        limitTrees m.worldaccmax ++ [.bool m.evtbufferact]) := by
  have haxes := (showsAll_limit m.accmax).append (showsAll_limit m.decelmax)
  have hpath := haxes.append (.single (printed_byteText m.cirpathreori))
  have hworld := hpath.append (showsAll_limit m.worldaccmax)
  exact hworld.append (.single (printed_flagText m.evtbufferact))

/-- Every record is written as its fields, in brackets. -/
theorem exists_fields (name : String) (r : DataRecord) :
    ∃ texts ts, (r.binding name).value = some (bracketed texts) ∧ r.tree = .list ts ∧ texts ≠ [] ∧
      ShowsAll texts ts := by
  cases r with
  | speed vTcp vOri vLeax vReax =>
      have hfields := ShowsAll.numbers [vTcp, vOri, vLeax, vReax]
      exact ⟨_, _, rfl, rfl, by simp, hfields⟩
  | zone z =>
      have hsizes := ShowsAll.numbers [z.pzoneTcp, z.pzoneOri, z.pzoneEax, z.zoneOri, z.zoneLeax,
        z.zoneReax]
      have hfields := ShowsAll.flag z.finep hsizes
      exact ⟨_, _, rfl, rfl, by simp, hfields⟩
  | load l => exact ⟨_, _, rfl, rfl, by simp, showsAll_load l⟩
  | conf c =>
      have hwrist := ShowsAll.cons (printed_quadrant c.cf6) (.single (printed_quadrant c.cfx))
      have hfields := ShowsAll.cons (printed_quadrant c.cf1)
        (ShowsAll.cons (printed_quadrant c.cf4) hwrist)
      exact ⟨_, _, rfl, rfl, by simp, hfields⟩
  | tool frame mass =>
      have hload : Printed (toolLoad mass).literal
          (loadTree mass [0, 0, 0.001] [1, 0, 0, 0] [0, 0, 0]).unsigned :=
        (showsAll_load (toolLoad mass)).bracketed (by simp)
      have hparts := ShowsAll.cons (printed_frame frame) (.single hload)
      have hfields := ShowsAll.flag true hparts
      exact ⟨_, _, rfl, rfl, by simp, hfields⟩
  | wobj frame =>
      have hunit : Printed "\"\"" (Literal.str "").unsigned :=
        printed_quotedText (s := "") (by simp) (by simp)
      have hframes := ShowsAll.cons (printed_frame frame) (.single (printed_frame originFrame))
      have hfields := ShowsAll.flag false (ShowsAll.flag true (ShowsAll.cons hunit hframes))
      exact ⟨_, _, rfl, rfl, by simp, hfields⟩
  | motset m =>
      have hfields := (showsAll_motset m).append (showsAll_motset_limits m)
      refine ⟨_, _, rfl, ?_, by simp, hfields⟩
      simp only [tree, List.append_assoc]

end DataRecord

/-! ## Records as values -/

/-- A frame is written without the signs of zeros. -/
theorem Pose.frameLiteral_asWritten (p : Pose) : p.frameAsWritten.frameLiteral = p.frameLiteral := by
  simp [frameLiteral, frameAsWritten, numbersText_unsigned]

/-- A tool is written as it is, once the signs of zeros and what a frame has no place for are
gone. -/
theorem ToolData.literal_asWritten (t : ToolData) : t.asWritten.literal = t.literal := by
  have hload : t.load.asWritten.literal = t.load.literal := t.load.literal_unsigned
  simp [literal, asWritten, Pose.frameLiteral_asWritten, hload]

/-- A work object is written without the signs of zeros. -/
theorem WobjData.literal_asWritten (w : WobjData) : w.asWritten.literal = w.literal := by
  simp [literal, asWritten, Pose.frameLiteral_asWritten]

namespace DataRecord

/-- The record of a tool or a work object is the literal of a value, which is read from it. -/
theorem exists_value {name value : String} {r : DataRecord}
    (hvalue : (r.binding name).value = some value) (h : r.dataType ∈ ["tooldata", "wobjdata"]) :
    ∃ v, DataValue.parseAs r.dataType value = .ok v ∧ v.literal = value := by
  cases r with
  | tool frame mass =>
      obtain rfl : (ToolData.literal ⟨true, frame, toolLoad mass⟩) = value := Option.some.inj hvalue
      exact ⟨_, DataValue.parseAs_of_parse rfl (ToolData.parse_literal _),
        ToolData.literal_asWritten _⟩
  | wobj frame =>
      obtain rfl : (WobjData.literal ⟨false, true, "", frame, originFrame⟩) = value :=
        Option.some.inj hvalue
      exact ⟨_, DataValue.parseAs_of_parse rfl (WobjData.parse_literal (by simp)),
        WobjData.literal_asWritten _⟩
  | speed | zone | load | conf | motset => simp [dataType] at h

end DataRecord

/-! ## The result -/

/-- **The records that a program declares read back**: whatever its name and its numbers are, what
is declared is one literal, which is read as the list of the fields in their order, with truth
values for flags and -1 for the value of a limit that is not enabled; and a tool or a work object is
read from it as a value that is written with the same text. -/
theorem data_record_reads_back (name : String) (r : DataRecord) :
    ∃ value,
      (r.binding name).text =
        "\n\t" ++ r.keyword ++ " " ++ r.dataType ++ " " ++ name ++ ":=" ++ value ++ ";" ∧
      ';' ∉ value.toList ∧ Literal.parse value = .ok r.tree.unsigned ∧
      (r.dataType ∈ ["tooldata", "wobjdata"] →
        ∃ v, DataValue.parseAs r.dataType value = .ok v ∧ v.literal = value) := by
  obtain ⟨texts, ts, hvalue, htree, hne, hshows⟩ := r.exists_fields name
  have hprinted := hshows.bracketed hne
  refine ⟨bracketed texts, ?_, fun hsemicolon => ?_, ?_, DataRecord.exists_value hvalue⟩
  · unfold Binding.text
    rw [hvalue]
    cases r <;> rfl
  · exact absurd (hprinted.inline ';' hsemicolon) (by decide)
  · rw [htree]
    exact hprinted.parse (trim_bracketed texts)

/-- A tool with a negative zero and a number with many digits in its frame. -/
theorem data_record_reads_back_tool :
    let frame : Pose := { position := #v[-0, 1e-7, -2.5], orientation := #v[1, -0, 0, 0] }
    let value := "[TRUE,[[0,0.0000001,-2.5],[1,0,0,0]],[0.5,[0,0,0.001],[1,0,0,0],0,0,0]]"
    (toolData "grip" frame 0.5).text = "\n\tPERS tooldata grip:=" ++ value ++ ";" ∧
      Literal.parse value = .ok (DataRecord.tool frame 0.5).tree.unsigned ∧
      ∃ v, DataValue.parseAs "tooldata" value = .ok v ∧ v.literal = value := by
  intro frame value
  have hwritten : (toolData "grip" frame 0.5).text =
      "\n\tPERS tooldata grip:=" ++ value ++ ";" := by
    decide +kernel
  obtain ⟨shown, htext, -, hparse, hvalue⟩ := data_record_reads_back "grip" (.tool frame 0.5)
  have hsame : "\n\tPERS tooldata grip:=" ++ shown ++ ";" =
      "\n\tPERS tooldata grip:=" ++ value ++ ";" := htext.symm.trans hwritten
  obtain rfl : shown = value :=
    (String.append_right_inj _).mp ((String.append_left_inj _).mp hsame)
  exact ⟨hwritten, hparse, hvalue (by decide)⟩

end RobotCell
