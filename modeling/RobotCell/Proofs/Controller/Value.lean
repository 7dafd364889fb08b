import RobotCell.Controller.Value
import RobotCell.Proofs.Motion.Check

/-!
# RobotCell.Proofs.Controller.Value

The literals of values read back.

A record is printed by its fields, in their order, and its shape says which kind of value it is:
`ToolData.printed_fields` and `WobjData.printed_fields` get the record back, with its frames
`asWritten`.  Whatever a value holds, what its literal shows passes the check of targets exactly
when the value does as it is written (`safeText_literal_iff`).
-/

namespace RobotCell

/-! ## Frames and loads -/

/-- The frame of a pose as a literal has it: its position and orientation alone. -/
def Pose.frameAsWritten (p : Pose) : Pose where
  position := unsigned p.position
  orientation := unsigned p.orientation

theorem Pose.printed_frameLiteral (p : Pose) :
    ∃ t, Printed p.frameLiteral t ∧ Pose.ofFrameLiteral? t = some p.frameAsWritten := by
  refine ⟨_, (PrintedAll.cons (printed_numbersText p.position)
    (.cons (printed_numbersText p.orientation) .nil)).bracketed (by simp), ?_⟩
  simp only [Pose.ofFrameLiteral?, Literal.items?, numbers?_map]
  rfl

def LoadData.asWritten (l : LoadData) : LoadData where
  mass := l.mass.dropZeroSign
  cog := unsigned l.cog
  aom := unsigned l.aom
  inertia := unsigned l.inertia

theorem LoadData.printed_literal (l : LoadData) :
    ∃ t, Printed l.literal t ∧ LoadData.ofLiteral? t = some l.asWritten := by
  obtain ⟨mass, cog, aom, ⟨⟨inertia⟩, hinertia⟩⟩ := l
  match inertia, hinertia with
  | [x, y, z], _ =>
    refine ⟨_, (PrintedAll.cons (printed_numberText mass) (.cons (printed_numbersText cog)
      (.cons (printed_numbersText aom) (.map printed_numberText [x, y, z])))).bracketed
      (by simp), ?_⟩
    simp only [LoadData.ofLiteral?, Literal.items?, numbers?_map, List.map_cons, List.map_nil,
      Literal.num?]
    simp [LoadData.asWritten]

/-! ## Scalars -/

theorem parse_numberText (x : Binary64) :
    Literal.parse (numberText x) = .ok (.num x.dropZeroSign) :=
  (printed_numberText x).parse <| trim_of_not_blank fun _ hc =>
    (isScalarChar_iff.mp (isScalarChar_of_mem_numberText hc)).2.1

theorem parse_flagText (b : Bool) : Literal.parse (flagText b) = .ok (.bool b) :=
  (printed_flagText b).parse (by cases b <;> rfl)

/-! ## Quotes -/

theorem toList_quotedText (s : String) : (quotedText s).toList = '"' :: (s.toList ++ ['"']) := by
  simp [quotedText]

theorem getLast?_quotedText (s : String) : (quotedText s).toList.getLast? = some '"' := by
  rw [toList_quotedText, ← List.cons_append, List.getLast?_concat]

/-- A text in quotes has no blanks around it. -/
theorem trim_quotedText (s : String) : trim (quotedText s).toList = (quotedText s).toList := by
  have hlast := getLast?_quotedText s
  rw [toList_quotedText] at hlast ⊢
  refine trim_of_ends ?_ ?_
  · intro c hc
    obtain rfl := Option.some.inj hc
    decide
  · intro c hc
    rw [hlast] at hc
    obtain rfl := Option.some.inj hc
    decide

/-- A text in quotes stands for itself when it has no quote in it. -/
theorem printed_quotedText {s : String} (hquote : '"' ∉ s.toList)
    (hinline : ∀ c ∈ s.toList, isInline c = true) : Printed (quotedText s) (.str s) := by
  refine ⟨⟨'"', _, toList_quotedText s, by decide, by decide⟩, ?_, ?_⟩
  · intro c hc
    rw [toList_quotedText, List.mem_cons, List.mem_append, List.mem_singleton] at hc
    rcases hc with rfl | hc | rfl
    · decide
    · exact hinline c hc
    · decide
  · intro bound rest hbound _
    obtain ⟨b, rfl⟩ : ∃ b, bound = b + 1 := ⟨bound - 1, by omega⟩
    have hrun : ∀ c ∈ s.toList, (c != '"') = true := by
      intro c hc
      simpa using ne_of_mem_of_not_mem hc hquote
    have hopen : skipBlanks ('"' :: (s.toList ++ ('"' :: rest))) =
      '"' :: (s.toList ++ ('"' :: rest)) := rfl
    rw [toList_quotedText, List.cons_append, List.append_assoc, List.singleton_append, readValue,
      hopen]
    simp [readString, List.takeWhile_append_of_pos hrun, List.dropWhile_append_of_pos hrun]

/-- A text in quotes is read as a string, whatever it holds. -/
theorem parse_quotedText {s : String} {t : Literal} (h : Literal.parse (quotedText s) = .ok t) :
    ∃ s', t = .str s' := by
  have hbody : literalBody (quotedText s).toList = (quotedText s).toList :=
    literalBody_of_trim (trim_quotedText s) (by rw [getLast?_quotedText]; decide)
  obtain ⟨rest, hread, -⟩ := parse_eq_ok_iff.mp h
  have hopen : skipBlanks ('"' :: (s.toList ++ ['"'])) = '"' :: (s.toList ++ ['"']) := rfl
  rw [hbody, toList_quotedText, readBound, readValue, hopen] at hread
  simp only [readString] at hread
  split at hread
  · cases hread
  · cases hread
    exact ⟨_, rfl⟩

/-! ## Records -/

def ToolData.asWritten (t : ToolData) : ToolData where
  robhold := t.robhold
  tframe := t.tframe.frameAsWritten
  load := t.load.asWritten

/-- The fields of a tool are printed, and read as the tool that they show. -/
theorem ToolData.printed_fields (t : ToolData) :
    ∃ ts, PrintedAll [flagText t.robhold, t.tframe.frameLiteral, t.load.literal] ts ∧
      ∀ text, DataValue.ofLiteral text (.list ts) = .ok (.tooldata t.asWritten) := by
  obtain ⟨frame, hframe, htframe⟩ := t.tframe.printed_frameLiteral
  obtain ⟨load, hload, htload⟩ := t.load.printed_literal
  refine ⟨_, .cons (printed_flagText t.robhold) (.cons hframe (.cons hload .nil)), fun text => ?_⟩
  simp only [DataValue.ofLiteral, DataValue.ofRecord?, htframe, htload]
  rfl

/-- **The literal of a tool reads back** as the tool that it shows. -/
theorem ToolData.parse_literal (t : ToolData) :
    DataValue.parse t.literal = .ok (.tooldata t.asWritten) := by
  obtain ⟨ts, hprinted, hread⟩ := t.printed_fields
  rw [DataValue.parse, ToolData.literal, hprinted.parse (by simp)]
  exact hread _

def WobjData.asWritten (w : WobjData) : WobjData where
  robhold := w.robhold
  ufprog := w.ufprog
  ufmec := w.ufmec
  uframe := w.uframe.frameAsWritten
  oframe := w.oframe.frameAsWritten

/-- The fields of a work object are printed, whatever unit it names in one line without quotes. -/
theorem WobjData.printed_fields {w : WobjData} (hquote : '"' ∉ w.ufmec.toList)
    (hinline : ∀ c ∈ w.ufmec.toList, isInline c = true) :
    ∃ ts, PrintedAll [flagText w.robhold, flagText w.ufprog, quotedText w.ufmec,
        w.uframe.frameLiteral, w.oframe.frameLiteral] ts ∧
      ∀ text, DataValue.ofLiteral text (.list ts) = .ok (.wobjdata w.asWritten) := by
  obtain ⟨user, huser, huframe⟩ := w.uframe.printed_frameLiteral
  obtain ⟨object, hobject, hoframe⟩ := w.oframe.printed_frameLiteral
  refine ⟨_, .cons (printed_flagText w.robhold) (.cons (printed_flagText w.ufprog)
    (.cons (printed_quotedText hquote hinline) (.cons huser (.cons hobject .nil)))),
    fun text => ?_⟩
  simp only [DataValue.ofLiteral, DataValue.ofRecord?, huframe, hoframe]
  rfl

/-! ## Failures of reading -/

theorem ok_of_map {α β : Type} {result : Except Failure α} {f : α → β} {b : β}
    (h : result.map f = .ok b) : ∃ a, result = .ok a ∧ f a = b := by
  cases result with
  | error e => cases h
  | ok a => exact ⟨a, rfl, Except.ok.inj h⟩

theorem error_of_map {α β : Type} {result : Except Failure α} {f : α → β} {e : Failure}
    (h : result.map f = .error e) : result = .error e := by
  cases result with
  | error e' => exact congrArg Except.error (Except.error.inj h)
  | ok a => cases h

theorem Pose.invalidLiteral_of_ofLiteral {text : String} {t : Literal} {e : Failure}
    (h : Pose.ofLiteral text t = .error e) : ∃ shown defect, e = .invalidLiteral shown defect := by
  simp only [Pose.ofLiteral] at h
  repeat' split at h
  all_goals cases h <;> exact ⟨_, _, rfl⟩

theorem JointPose.invalidLiteral_of_ofLiteral {text : String} {t : Literal} {e : Failure}
    (h : JointPose.ofLiteral text t = .error e) :
    ∃ shown defect, e = .invalidLiteral shown defect := by
  simp only [JointPose.ofLiteral] at h
  repeat' split at h
  all_goals cases h <;> exact ⟨_, _, rfl⟩

theorem Pose.invalidLiteral_of_parse {text : String} {e : Failure} (h : Pose.parse text = .error e) :
    ∃ shown defect, e = .invalidLiteral shown defect := by
  unfold Pose.parse at h
  split at h
  · rename_i hparse
    cases h
    exact RobotCell.invalidLiteral_of_parse hparse
  · exact invalidLiteral_of_ofLiteral h

theorem JointPose.invalidLiteral_of_parse {text : String} {e : Failure}
    (h : JointPose.parse text = .error e) : ∃ shown defect, e = .invalidLiteral shown defect := by
  unfold JointPose.parse at h
  split at h
  · rename_i hparse
    cases h
    exact RobotCell.invalidLiteral_of_parse hparse
  · exact invalidLiteral_of_ofLiteral h

/-- A text that is read as no pose is malformed input. -/
theorem Pose.kind_of_parse {text : String} {e : Failure} (h : Pose.parse text = .error e) :
    e.kind = .validation := by
  obtain ⟨shown, defect, rfl⟩ := invalidLiteral_of_parse h
  rfl

/-! ## Values -/

/-- A text that is read as a pose has its shape. -/
theorem Pose.exists_of_ofLiteral {text : String} {t : Literal} {p : Pose}
    (h : Pose.ofLiteral text t = .ok p) : ∃ ts a b c, t = .list [.list ts, a, b, c] := by
  simp only [Pose.ofLiteral] at h
  split at h
  · rename_i position a b c hitems
    cases t with
    | num | bool | str => cases hitems
    | list items =>
        cases hitems
        cases position with
        | list ts => exact ⟨ts, a, b, c, rfl⟩
        | num | bool | str => cases h
  · cases h

theorem JointPose.exists_of_ofLiteral {text : String} {t : Literal} {p : JointPose}
    (h : JointPose.ofLiteral text t = .ok p) : ∃ ts a, t = .list [.list ts, a] := by
  simp only [JointPose.ofLiteral] at h
  split at h
  · rename_i joints a hitems
    cases t with
    | num | bool | str => cases hitems
    | list items =>
        cases hitems
        cases joints with
        | list ts => exact ⟨ts, a, rfl⟩
        | num | bool | str => cases h
  · cases h

namespace DataValue

/-- A value as its literal has it. -/
def asWritten : DataValue → DataValue
  | .robtarget p => .robtarget p.asWritten
  | .jointtarget p => .jointtarget p.asWritten
  | .tooldata t => .tooldata t.asWritten
  | .wobjdata w => .wobjdata w.asWritten
  | .num x => .num x.dropZeroSign
  | .bool b => .bool b
  | .string s => .string s

/-- The check of a target; nothing is asked of other values. -/
def validate : DataValue → Except Failure Unit
  | .robtarget p => p.validate
  | .jointtarget p => p.validate
  | _ => .ok ()

/-- Every text that is read as no value is refused as no literal. -/
theorem invalidLiteral_of_parse {text : String} {e : Failure} (h : parse text = .error e) :
    ∃ shown defect, e = .invalidLiteral shown defect := by
  unfold parse at h
  split at h
  · rename_i hparse
    cases h
    exact RobotCell.invalidLiteral_of_parse hparse
  · rename_i t _
    unfold ofLiteral at h
    split at h
    · cases h
    · cases h
    · cases h
    · exact Pose.invalidLiteral_of_ofLiteral (error_of_map h)
    · exact JointPose.invalidLiteral_of_ofLiteral (error_of_map h)
    · split at h
      · cases h
      · cases h
        exact ⟨_, _, rfl⟩

theorem kind_of_parse {text : String} {e : Failure} (h : parse text = .error e) :
    e.kind = .validation := by
  obtain ⟨shown, defect, rfl⟩ := invalidLiteral_of_parse h
  rfl

theorem validate_asWritten {v : DataValue} (h : v.validate = .ok ()) :
    v.asWritten.validate = .ok () := by
  cases v with
  | robtarget p => exact Pose.validate_asWritten h
  | jointtarget p => exact JointPose.validate_asWritten h
  | tooldata | wobjdata | num | bool | string => rfl

/-- A text that is read as a pose is told to be one by its shape. -/
theorem parse_of_pose {text : String} {p : Pose} (h : Pose.parse text = .ok p) :
    DataValue.parse text = .ok (.robtarget p) := by
  unfold Pose.parse at h
  split at h
  · cases h
  · rename_i t hparse
    obtain ⟨ts, a, b, c, rfl⟩ := Pose.exists_of_ofLiteral h
    simp only [DataValue.parse, hparse, DataValue.ofLiteral, h]
    rfl

theorem parse_of_jointPose {text : String} {p : JointPose} (h : JointPose.parse text = .ok p) :
    DataValue.parse text = .ok (.jointtarget p) := by
  unfold JointPose.parse at h
  split at h
  · cases h
  · rename_i t hparse
    obtain ⟨ts, a, rfl⟩ := JointPose.exists_of_ofLiteral h
    simp only [DataValue.parse, hparse, DataValue.ofLiteral, h]
    rfl

/-- The trees that are read as values, one shape for each kind. -/
inductive OfLiteral (text : String) : Literal → DataValue → Prop where
  | robtarget {t : Literal} {p : Pose} (h : Pose.ofLiteral text t = .ok p) :
      OfLiteral text t (.robtarget p)
  | jointtarget {t : Literal} {p : JointPose} (h : JointPose.ofLiteral text t = .ok p) :
      OfLiteral text t (.jointtarget p)
  | tooldata {robhold : Bool} {frame load : Literal} {tframe : Pose} {l : LoadData}
      (hframe : Pose.ofFrameLiteral? frame = some tframe)
      (hload : LoadData.ofLiteral? load = some l) :
      OfLiteral text (.list [.bool robhold, frame, load]) (.tooldata ⟨robhold, tframe, l⟩)
  | wobjdata {robhold ufprog : Bool} {ufmec : String} {user object : Literal} {uframe oframe : Pose}
      (huser : Pose.ofFrameLiteral? user = some uframe)
      (hobject : Pose.ofFrameLiteral? object = some oframe) :
      OfLiteral text (.list [.bool robhold, .bool ufprog, .str ufmec, user, object])
        (.wobjdata ⟨robhold, ufprog, ufmec, uframe, oframe⟩)
  | num (x : Binary64) : OfLiteral text (.num x) (.num x)
  | bool (b : Bool) : OfLiteral text (.bool b) (.bool b)
  | string (s : String) : OfLiteral text (.str s) (.string s)

theorem ofLiteral_inv {text : String} {t : Literal} {v : DataValue}
    (h : ofLiteral text t = .ok v) : OfLiteral text t v := by
  unfold ofLiteral at h
  split at h
  · cases h
    exact .num _
  · cases h
    exact .bool _
  · cases h
    exact .string _
  · obtain ⟨p, hp, rfl⟩ := ok_of_map h
    exact .robtarget hp
  · obtain ⟨p, hp, rfl⟩ := ok_of_map h
    exact .jointtarget hp
  · split at h
    · rename_i hrecord
      cases h
      unfold ofRecord? at hrecord
      split at hrecord
      · split at hrecord
        · cases hrecord
          exact .tooldata ‹_› ‹_›
        · cases hrecord
      · split at hrecord
        · rename_i huser hobject
          cases hrecord
          exact .wobjdata huser hobject
        · cases hrecord
      · cases hrecord
    · cases h

/-- A value that was read is that of a tree. -/
theorem exists_of_parse {text : String} {v : DataValue} (h : parse text = .ok v) :
    ∃ t, Literal.parse text = .ok t ∧ OfLiteral text t v := by
  unfold parse at h
  split at h
  · cases h
  · rename_i t hparse
    exact ⟨t, hparse, ofLiteral_inv h⟩

/-- A text that shows a target is read as that target. -/
theorem parse_of_robtarget {text : String} {p : Pose} (h : parse text = .ok (.robtarget p)) :
    Pose.parse text = .ok p := by
  obtain ⟨t, hparse, hread⟩ := exists_of_parse h
  cases hread with
  | robtarget hp =>
      rw [Pose.parse, hparse]
      exact hp

theorem parse_of_jointtarget {text : String} {p : JointPose}
    (h : parse text = .ok (.jointtarget p)) : JointPose.parse text = .ok p := by
  obtain ⟨t, hparse, hread⟩ := exists_of_parse h
  cases hread with
  | jointtarget hp =>
      rw [JointPose.parse, hparse]
      exact hp

/-- A value that is told by its shape is read as every type that it fits. -/
theorem parseAs_of_parse {declared text : String} {v : DataValue} (hfits : v.fits declared = true)
    (h : parse text = .ok v) : parseAs declared text = .ok v := by
  -- targets are read by their own readers, all other types by the shape
  have hinferred (hmem : declared ∈ inferredTypes) (hpose : declared ≠ "robtarget")
      (hjoint : declared ≠ "jointtarget") : parseAs declared text = .ok v := by
    rw [parseAs, if_neg hpose, if_neg hjoint, if_pos hmem, h]
    exact if_pos hfits
  cases v with
  | robtarget p =>
      obtain rfl : declared = "robtarget" := by simpa [fits, dataType] using hfits
      rw [parseAs, if_pos rfl, parse_of_robtarget h]
      rfl
  | jointtarget p =>
      obtain rfl : declared = "jointtarget" := by simpa [fits, dataType] using hfits
      rw [parseAs, if_neg (by decide), if_pos rfl, parse_of_jointtarget h]
      rfl
  | num x =>
      have hdeclared : declared = "num" ∨ declared = "dnum" := by
        simpa [fits, dataType] using hfits
      rcases hdeclared with rfl | rfl <;> exact hinferred (by decide) (by decide) (by decide)
  | tooldata | wobjdata | bool | string =>
      obtain rfl : declared = _ := by simpa [fits, dataType] using hfits
      exact hinferred (by decide) (by decide) (by decide)

/-- What is read as a declared type is what the text shows. -/
theorem parse_of_parseAs {declared text : String} {v : DataValue}
    (h : parseAs declared text = .ok v) : parse text = .ok v := by
  unfold parseAs at h
  split at h
  · obtain ⟨p, hp, rfl⟩ := ok_of_map h
    exact parse_of_pose hp
  split at h
  · obtain ⟨p, hp, rfl⟩ := ok_of_map h
    exact parse_of_jointPose hp
  split at h
  · split at h
    · cases h
    · rename_i value hparse
      split at h
      · exact hparse.trans h
      · cases h
  · cases h

/-- What is read as a declared type fits it. -/
theorem fits_of_parseAs {declared text : String} {v : DataValue}
    (h : parseAs declared text = .ok v) : v.fits declared = true := by
  unfold parseAs at h
  split at h
  · rename_i hdeclared
    obtain ⟨p, -, rfl⟩ := ok_of_map h
    rw [hdeclared]
    rfl
  split at h
  · rename_i hdeclared
    obtain ⟨p, -, rfl⟩ := ok_of_map h
    rw [hdeclared]
    rfl
  split at h
  · split at h
    · cases h
    · split at h
      · rename_i hfits
        cases h
        exact hfits
      · cases h
  · cases h

/-- A text that is refused for a type that can be declared is no literal of it. -/
theorem invalidLiteral_of_parseAs {declared text : String} {e : Failure}
    (hdeclared : declared ∈ "robtarget" :: "jointtarget" :: inferredTypes)
    (h : parseAs declared text = .error e) : ∃ shown defect, e = .invalidLiteral shown defect := by
  unfold parseAs at h
  split at h
  · exact Pose.invalidLiteral_of_parse (error_of_map h)
  split at h
  · exact JointPose.invalidLiteral_of_parse (error_of_map h)
  split at h
  · split at h
    · rename_i hparse
      cases h
      exact invalidLiteral_of_parse hparse
    · split at h
      · cases h
      · cases h
        exact ⟨_, _, rfl⟩
  · simp_all

/-- **Reading as a declared type and by shape agree**: a text is read as a declared type exactly
when its shape shows a value that fits the type, and as that value.  A type that no value fits is
refused, whatever the text. -/
theorem parseAs_agrees (declared text : String) :
    (∀ v, parseAs declared text = .ok v ↔ parse text = .ok v ∧ v.fits declared = true) ∧
      (parseAs declared text = .error (.refused (.unsupportedType declared)) ↔
        declared ∉ ["robtarget", "jointtarget", "tooldata", "wobjdata", "num", "dnum", "bool",
          "string"]) := by
  refine ⟨fun v => ⟨fun h => ⟨parse_of_parseAs h, fits_of_parseAs h⟩,
    fun ⟨hparse, hfits⟩ => parseAs_of_parse hfits hparse⟩, ?_, ?_⟩
  · intro h hdeclared
    obtain ⟨shown, defect, heq⟩ := invalidLiteral_of_parseAs hdeclared h
    cases heq
  · intro hdeclared
    simp only [List.mem_cons, not_or] at hdeclared
    obtain ⟨hpose, hjoint, hinferred⟩ := hdeclared
    rw [parseAs, if_neg hpose, if_neg hjoint, if_neg]
    simpa [inferredTypes] using hinferred

/-- Only a list that starts with a list is read as a target. -/
theorem validate_of_ofLiteral {text : String} {t : Literal} {v : DataValue}
    (hshape : ∀ ts later, t ≠ .list (.list ts :: later)) (h : OfLiteral text t v) :
    v.validate = .ok () := by
  cases h with
  | robtarget hp =>
      obtain ⟨ts, a, b, c, rfl⟩ := Pose.exists_of_ofLiteral hp
      exact absurd rfl (hshape _ _)
  | jointtarget hp =>
      obtain ⟨ts, a, rfl⟩ := JointPose.exists_of_ofLiteral hp
      exact absurd rfl (hshape _ _)
  | tooldata | wobjdata | num | bool | string => rfl

/-- What the literal of a value shows is checked as the value that is written. -/
theorem validate_of_parse_literal {v shown : DataValue}
    (h : DataValue.parse v.literal = .ok shown) : shown.validate = v.asWritten.validate := by
  have hother (hv : v.asWritten.validate = .ok ())
      (hshape : ∀ t, Literal.parse v.literal = .ok t → ∀ ts later, t ≠ .list (.list ts :: later)) :
      shown.validate = v.asWritten.validate := by
    obtain ⟨t, hparse, hread⟩ := exists_of_parse h
    rw [hv, validate_of_ofLiteral (hshape t hparse) hread]
  cases v with
  | robtarget p =>
      cases (parse_of_pose p.parse_literal).symm.trans h
      rfl
  | jointtarget p =>
      cases (parse_of_jointPose p.parse_literal).symm.trans h
      rfl
  | tooldata tool =>
      refine hother rfl fun t ht => ?_
      obtain ⟨ts, rfl⟩ := parse_bracketed_flag ht
      simp
  | wobjdata wobj =>
      refine hother rfl fun t ht => ?_
      obtain ⟨ts, rfl⟩ := parse_bracketed_flag ht
      simp
  | num x =>
      refine hother rfl fun t ht => ?_
      cases (parse_numberText x).symm.trans ht
      simp
  | bool b =>
      refine hother rfl fun t ht => ?_
      cases (parse_flagText b).symm.trans ht
      simp
  | string s =>
      refine hother rfl fun t ht => ?_
      obtain ⟨s', rfl⟩ := parse_quotedText ht
      simp

end DataValue

/-- A text that shows no target, or one that passes its check. -/
def SafeText (text : String) : Prop :=
  ∀ shown, DataValue.parse text = .ok shown → shown.validate = .ok ()

/-- The literal of a value is safe exactly when the value passes as it is written. -/
theorem safeText_literal_iff {v : DataValue} :
    SafeText v.literal ↔ v.asWritten.validate = .ok () := by
  constructor
  · intro h
    cases v with
    | robtarget p => exact h _ (DataValue.parse_of_pose p.parse_literal)
    | jointtarget p => exact h _ (DataValue.parse_of_jointPose p.parse_literal)
    | tooldata | wobjdata | num | bool | string => rfl
  · intro h shown hshown
    rw [DataValue.validate_of_parse_literal hshown, h]

end RobotCell
