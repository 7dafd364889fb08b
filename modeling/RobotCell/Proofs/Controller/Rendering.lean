import Mathlib.Data.List.Forall2
import RobotCell.Proofs.Controller.Value
import RobotCell.Proofs.Motion.Grammar

/-!
# RobotCell.Proofs.Controller.Rendering

Reading and rendering settle after one step.

A value that was read from a text is `Shown` by its literal, and has no quotes in its texts
(`shown_of_parse`).  The literal of such a value is read as the value with its
zeros `unsigned`, which has the same literal again.  The two halves meet at these two predicates:

* `DataValue.parse_literal`: every value without quotes is read from its literal, as it is written;
* `DataValue.asWritten_eq_unsigned`: a value that is shown is written as it is, up to the signs of
  its zeros.

Strings may hold any character but a quote, line ends and semicolons too, so that the texts are
followed here by the grammar (`Shows`) and not as texts of one line (`Printed`).
-/

namespace RobotCell

/-! ## Texts that stand for a tree -/

/-- Wherever a value may stand, the grammar derives the tree from the text. -/
def Shows (text : String) (t : Literal) : Prop :=
  ∀ rest, Stops rest → DerivesValue (text.toList ++ rest) t rest

/-- A printed text shows its tree. -/
theorem Printed.shows {text : String} {t : Literal} (h : Printed text t) : Shows text t :=
  fun rest hrest =>
    derives_of_readValue (h.reads (text.toList.length + 1) rest (Nat.lt_succ_self _) hrest)

theorem Blanks.refl (cs : List Char) : Blanks cs cs := ⟨[], rfl, by simp⟩

/-- A text in quotes stands for itself when it has no quote in it, on however many lines. -/
theorem shows_quotedText {s : String} (hquote : '"' ∉ s.toList) :
    Shows (quotedText s) (.str s) := by
  intro rest _
  have hchars : (quotedText s).toList ++ rest = '"' :: (s.toList ++ '"' :: rest) := by
    rw [toList_quotedText, List.cons_append, List.append_assoc, List.singleton_append]
  have hderives : DerivesValue ('"' :: (s.toList ++ '"' :: rest))
      (.str (String.ofList s.toList)) rest :=
    .str (.refl _) fun c hc => ne_of_mem_of_not_mem hc hquote
  rwa [String.ofList_toList, ← hchars] at hderives

/-- The items of a list up to its bracket. -/
theorem derivesItems_itemChars {texts : List String} {ts : List Literal}
    (h : List.Forall₂ Shows texts ts) (hne : texts ≠ []) (rest : List Char) :
    DerivesItems (itemChars texts ++ ']' :: rest) ts rest := by
  induction h with
  | nil => exact absurd rfl hne
  | @cons text t texts ts hhead htail ih =>
      cases htail with
      | nil =>
          have hchars : itemChars [text] = text.toList := by simp [itemChars]
          rw [hchars]
          exact .last (hhead _ (stops_cons (by decide))) (.refl _)
      | cons hnext hmore =>
          rw [itemChars_cons_cons, List.append_assoc, List.cons_append]
          exact .more (hhead _ (stops_cons (by decide))) (.refl _) (ih (by simp))

/-- Texts that show trees show the list of them in brackets. -/
theorem shows_bracketed {texts : List String} {ts : List Literal}
    (h : List.Forall₂ Shows texts ts) (hne : texts ≠ []) : Shows (bracketed texts) (.list ts) := by
  intro rest _
  rw [toList_bracketed, List.cons_append, List.append_assoc, List.singleton_append]
  exact .list (.refl _) (derivesItems_itemChars h hne rest)

/-- A text without blanks or a semicolon at its ends is a literal when it stands for one. -/
theorem Shows.parse {text : String} {t : Literal} (h : Shows text t)
    (htrim : trim text.toList = text.toList) (hlast : text.toList.getLast? ≠ some ';') :
    Literal.parse text = .ok t := by
  have hderives := h [] (by simp [Stops])
  rw [List.append_nil] at hderives
  exact parse_eq_ok_iff_derives.mpr
    ⟨text.toList, [], .inr ⟨trim_eq_iff.mp htrim, hlast⟩, hderives, .refl []⟩

/-- Texts that show trees are read as the list of them in brackets. -/
theorem parse_bracketed {texts : List String} {ts : List Literal}
    (h : List.Forall₂ Shows texts ts) (hne : texts ≠ []) :
    Literal.parse (bracketed texts) = .ok (.list ts) := by
  refine (shows_bracketed h hne).parse (trim_bracketed texts) ?_
  rw [toList_bracketed, ← List.cons_append, List.getLast?_concat]
  decide

/-- A text without a quote is read back between quotes. -/
theorem parse_quotedText_of_not_mem {s : String} (hquote : '"' ∉ s.toList) :
    Literal.parse (quotedText s) = .ok (.str s) :=
  (shows_quotedText hquote).parse (trim_quotedText s) (by rw [getLast?_quotedText]; decide)

/-! ## The numbers of a value -/

/-- The pose with each of its numbers replaced. -/
def Pose.mapNumbers (f : Binary64 → Binary64) (p : Pose) : Pose where
  position := p.position.map f
  orientation := p.orientation.map f
  config := p.config
  external := p.external.map (Option.map f)

def JointPose.mapNumbers (f : Binary64 → Binary64) (p : JointPose) : JointPose where
  joints := p.joints.map f
  external := p.external.map (Option.map f)

def LoadData.mapNumbers (f : Binary64 → Binary64) (l : LoadData) : LoadData where
  mass := f l.mass
  cog := l.cog.map f
  aom := l.aom.map f
  inertia := l.inertia.map f

namespace DataValue

/-- The value with each of its numbers replaced: of the axes, those in use. -/
def mapNumbers (f : Binary64 → Binary64) : DataValue → DataValue
  | .robtarget p => .robtarget (p.mapNumbers f)
  | .jointtarget p => .jointtarget (p.mapNumbers f)
  | .tooldata t => .tooldata ⟨t.robhold, t.tframe.mapNumbers f, t.load.mapNumbers f⟩
  | .wobjdata w =>
    .wobjdata ⟨w.robhold, w.ufprog, w.ufmec, w.uframe.mapNumbers f, w.oframe.mapNumbers f⟩
  | .num x => .num (f x)
  | .bool b => .bool b
  | .string s => .string s

/-- The value without the signs of its zeros. -/
def unsigned (v : DataValue) : DataValue := v.mapNumbers Binary64.dropZeroSign

variable {f : Binary64 → Binary64} {v : DataValue}

/-- A change of numbers keeps the type of a value. -/
@[simp] theorem dataType_mapNumbers : (v.mapNumbers f).dataType = v.dataType := by
  cases v <;> rfl

/-- A value fits its own type. -/
theorem fits_dataType (v : DataValue) : v.fits v.dataType = true := by simp [fits]

/-- A change of numbers keeps the types that a value fits. -/
@[simp] theorem fits_mapNumbers {declared : String} :
    (v.mapNumbers f).fits declared = v.fits declared := by
  cases v <;> rfl

end DataValue

/-! ## Zeros in literals -/

/-- The text of a number does not show the sign of a zero. -/
theorem numberText_dropZeroSign (x : Binary64) : numberText x.dropZeroSign = numberText x := by
  unfold Binary64.dropZeroSign
  split
  · rename_i hzero
    rw [numberText, numberText, if_pos hzero]
    rfl
  · rfl

theorem map_toList_map {α β γ : Type} {n : Nat} {f : α → β} {g : β → γ} {h : α → γ}
    (hfg : ∀ a, g (f a) = h a) (v : Vector α n) : (v.map f).toList.map g = v.toList.map h := by
  rw [Vector.toList_map, List.map_map]
  exact List.map_congr_left fun a _ => hfg a

/-- Numbers are written without the signs of zeros. -/
theorem numbersText_unsigned {n : Nat} (v : Vector Binary64 n) :
    numbersText (unsigned v).toList = numbersText v.toList := by
  rw [numbersText, numbersText, map_toList_map numberText_dropZeroSign]

/-- External axes are written without the signs of zeros. -/
theorem ExternalAxes.literal_unsigned (axes : ExternalAxes) :
    ExternalAxes.literal (axes.map (Option.map Binary64.dropZeroSign)) = axes.literal := by
  rw [literal, literal, map_toList_map]
  intro axis
  cases axis with
  | none => rfl
  | some x => exact numberText_dropZeroSign x

/-- A frame is written without the signs of zeros. -/
theorem Pose.frameLiteral_unsigned (p : Pose) :
    (p.mapNumbers Binary64.dropZeroSign).frameLiteral = p.frameLiteral := by
  simp [Pose.frameLiteral, Pose.mapNumbers, numbersText_unsigned]

/-- A load is written without the signs of zeros. -/
theorem LoadData.literal_unsigned (l : LoadData) :
    (l.mapNumbers Binary64.dropZeroSign).literal = l.literal := by
  simp [LoadData.literal, LoadData.mapNumbers, numbersText_unsigned, numberText_dropZeroSign,
    map_toList_map numberText_dropZeroSign]

/-- A value is written like the value without the signs of its zeros. -/
theorem DataValue.literal_unsigned (v : DataValue) : v.unsigned.literal = v.literal := by
  cases v with
  | robtarget p =>
      simp [unsigned, mapNumbers, literal, Pose.literal, Pose.mapNumbers, numbersText_unsigned,
        ExternalAxes.literal_unsigned]
  | jointtarget p =>
      simp [unsigned, mapNumbers, literal, JointPose.literal, JointPose.mapNumbers,
        numbersText_unsigned, ExternalAxes.literal_unsigned]
  | tooldata t =>
      simp [unsigned, mapNumbers, literal, ToolData.literal, Pose.frameLiteral_unsigned,
        LoadData.literal_unsigned]
  | wobjdata w =>
      simp [unsigned, mapNumbers, literal, WobjData.literal, Pose.frameLiteral_unsigned]
  | num x => exact numberText_dropZeroSign x
  | bool | string => rfl

/-! ## Values that their literal shows -/

/-- No axis in use is at the mark of an unused one. -/
def ExternalAxes.Shown (axes : ExternalAxes) : Prop := ∀ x, some x ∈ axes → ¬unusedAxis ≤ x

/-- A frame alone: the arm configuration is the default one, and no external axis is in use. -/
def Pose.IsFrame (p : Pose) : Prop := p.config = {} ∧ p.external = ExternalAxes.unused

namespace DataValue

/-- The literal has a place for all of the value. -/
def Shown : DataValue → Prop
  | .robtarget p => p.external.Shown
  | .jointtarget p => p.external.Shown
  | .tooldata t => t.tframe.IsFrame
  | .wobjdata w => w.uframe.IsFrame ∧ w.oframe.IsFrame
  | .num _ | .bool _ | .string _ => True

/-- No text of the value has a quote in it. -/
def QuoteFree : DataValue → Prop
  | .wobjdata w => '"' ∉ w.ufmec.toList
  | .string s => '"' ∉ s.toList
  | .robtarget _ | .jointtarget _ | .tooldata _ | .num _ | .bool _ => True

/-- A change of numbers keeps the texts of a value. -/
theorem quoteFree_mapNumbers {f : Binary64 → Binary64} {v : DataValue} :
    (v.mapNumbers f).QuoteFree ↔ v.QuoteFree := by
  cases v <;> rfl

end DataValue

/-- The sign of a zero does not take an axis out of use. -/
theorem ExternalAxes.axis?_dropZeroSign {x : Binary64} (h : ¬unusedAxis ≤ x) :
    axis? x.dropZeroSign = some x.dropZeroSign := by
  refine if_neg ?_
  unfold Binary64.dropZeroSign
  split
  · decide +kernel
  · exact h

/-- Axes that are shown are written as they are, up to the signs of zeros. -/
theorem ExternalAxes.asWritten_eq_unsigned {axes : ExternalAxes} (h : axes.Shown) :
    axes.asWritten = axes.map (Option.map Binary64.dropZeroSign) := by
  refine Vector.map_congr_left fun axis haxis => ?_
  cases axis with
  | none => rfl
  | some x => exact axis?_dropZeroSign (h x haxis)

/-- A pose that is a frame is written as it is, up to the signs of zeros. -/
theorem Pose.frameAsWritten_eq_unsigned {p : Pose} (h : p.IsFrame) :
    p.frameAsWritten = p.mapNumbers Binary64.dropZeroSign := by
  obtain ⟨hconfig, hexternal⟩ := h
  have hunused : ExternalAxes.unused.map (Option.map Binary64.dropZeroSign) =
      ExternalAxes.unused := Vector.map_replicate
  simp only [frameAsWritten, mapNumbers, hconfig, hexternal, hunused]

/-- What a literal has no place for apart, a value is written up to the signs of its zeros. -/
theorem DataValue.asWritten_eq_unsigned {v : DataValue} (h : v.Shown) :
    v.asWritten = v.unsigned := by
  cases v with
  | robtarget p | jointtarget p =>
      have haxes := ExternalAxes.asWritten_eq_unsigned (show ExternalAxes.Shown p.external from h)
      simp only [asWritten, unsigned, mapNumbers, Pose.asWritten, Pose.mapNumbers,
        JointPose.asWritten, JointPose.mapNumbers, haxes]
  | tooldata t =>
      have hframe : t.tframe.IsFrame := h
      simp only [asWritten, unsigned, mapNumbers, ToolData.asWritten,
        Pose.frameAsWritten_eq_unsigned hframe]
      rfl
  | wobjdata w =>
      obtain ⟨huser, hobject⟩ := h
      simp only [asWritten, unsigned, mapNumbers, WobjData.asWritten,
        Pose.frameAsWritten_eq_unsigned huser, Pose.frameAsWritten_eq_unsigned hobject]
  | num | bool | string => rfl

/-! ## Literals that are read -/

/-- **The literal of a work object reads back** as the work object that it shows, whatever unit it
names without quotes. -/
theorem WobjData.parse_literal {w : WobjData} (hquote : '"' ∉ w.ufmec.toList) :
    DataValue.parse w.literal = .ok (.wobjdata w.asWritten) := by
  obtain ⟨user, huser, huframe⟩ := w.uframe.printed_frameLiteral
  obtain ⟨object, hobject, hoframe⟩ := w.oframe.printed_frameLiteral
  have hshows : List.Forall₂ Shows [flagText w.robhold, flagText w.ufprog, quotedText w.ufmec,
      w.uframe.frameLiteral, w.oframe.frameLiteral]
      [.bool w.robhold, .bool w.ufprog, .str w.ufmec, user, object] :=
    .cons (printed_flagText _).shows (.cons (printed_flagText _).shows
      (.cons (shows_quotedText hquote) (.cons huser.shows (.cons hobject.shows .nil))))
  rw [DataValue.parse, WobjData.literal, parse_bracketed hshows (by simp)]
  simp only [DataValue.ofLiteral, DataValue.ofRecord?, huframe, hoframe]
  rfl

/-- **Values without quotes read back** from their literals, as they are written. -/
theorem DataValue.parse_literal {v : DataValue} (hquote : v.QuoteFree) :
    parse v.literal = .ok v.asWritten := by
  cases v with
  | robtarget p => exact parse_of_pose p.parse_literal
  | jointtarget p => exact parse_of_jointPose p.parse_literal
  | tooldata t => exact t.parse_literal
  | wobjdata w => exact WobjData.parse_literal hquote
  | num x =>
      rw [parse, literal, parse_numberText]
      rfl
  | bool b =>
      rw [parse, literal, parse_flagText]
      rfl
  | string s =>
      rw [parse, literal, parse_quotedText_of_not_mem hquote]
      rfl

/-! ## Values that were read -/

/-- A string of the grammar has no quote in it. -/
theorem DerivesValue.not_mem_of_str {cs rest : List Char} {s : String}
    (h : DerivesValue cs (.str s) rest) : '"' ∉ s.toList := by
  cases h with
  | str hopen htext =>
      rw [String.toList_ofList]
      exact fun hmem => htext _ hmem rfl
  | scalar hopen hblank hquote hrun hstops htrim hvalue => cases hvalue

/-- Each item of a list is derived from a part of the text. -/
theorem DerivesItems.exists_of_mem {cs rest : List Char} {ts : List Literal} {t : Literal}
    (h : DerivesItems cs ts rest) (hmem : t ∈ ts) : ∃ cs' rest', DerivesValue cs' t rest' := by
  match h with
  | .last hitem _ =>
      obtain rfl := List.mem_singleton.mp hmem
      exact ⟨_, _, hitem⟩
  | .more hitem _ hitems =>
      rcases List.mem_cons.mp hmem with rfl | hmem
      · exact ⟨_, _, hitem⟩
      · exact hitems.exists_of_mem hmem

/-- Axes that were read are shown when they are written. -/
theorem ExternalAxes.shown_of_ofLiteral? {t : Literal} {axes : ExternalAxes}
    (h : ofLiteral? t = some axes) : axes.Shown := by
  obtain ⟨numbers, -, rfl⟩ := Option.map_eq_some_iff.mp h
  intro x hx hmark
  obtain ⟨y, -, hy⟩ := Vector.mem_map.mp hx
  unfold axis? at hy
  split at hy
  · cases hy
  · rename_i hbelow
    cases hy
    exact hbelow hmark

/-- The axes of a pose that was read are shown when it is written. -/
theorem Pose.shown_of_ofLiteral {text : String} {t : Literal} {p : Pose}
    (h : Pose.ofLiteral text t = .ok p) : p.external.Shown := by
  simp only [Pose.ofLiteral] at h
  repeat' split at h
  all_goals cases h
  exact ExternalAxes.shown_of_ofLiteral? ‹_›

/-- The axes of a joint pose that was read are shown when it is written. -/
theorem JointPose.shown_of_ofLiteral {text : String} {t : Literal} {p : JointPose}
    (h : JointPose.ofLiteral text t = .ok p) : p.external.Shown := by
  simp only [JointPose.ofLiteral] at h
  repeat' split at h
  all_goals cases h
  exact ExternalAxes.shown_of_ofLiteral? ‹_›

/-- What is read as a frame is one. -/
theorem Pose.isFrame_of_ofFrameLiteral? {t : Literal} {p : Pose}
    (h : Pose.ofFrameLiteral? t = some p) : p.IsFrame := by
  simp only [Pose.ofFrameLiteral?] at h
  repeat' split at h
  all_goals cases h
  exact ⟨rfl, rfl⟩

namespace DataValue

/-- **What is read is shown**: a value that was read has nothing that its literal has no place for,
and no quotes. -/
theorem shown_of_parse {text : String} {v : DataValue} (h : parse text = .ok v) :
    v.Shown ∧ v.QuoteFree := by
  obtain ⟨t, hparse, hread⟩ := exists_of_parse h
  obtain ⟨body, rest, -, hderives, -⟩ := parse_eq_ok_iff_derives.mp hparse
  cases hread with
  | robtarget hp => exact ⟨Pose.shown_of_ofLiteral hp, trivial⟩
  | jointtarget hp => exact ⟨JointPose.shown_of_ofLiteral hp, trivial⟩
  | tooldata hframe hload => exact ⟨Pose.isFrame_of_ofFrameLiteral? hframe, trivial⟩
  | @wobjdata robhold ufprog ufmec user object uframe oframe huser hobject =>
      refine ⟨⟨Pose.isFrame_of_ofFrameLiteral? huser, Pose.isFrame_of_ofFrameLiteral? hobject⟩, ?_⟩
      -- the unit is a string among the items of the list
      cases hderives with
      | list hopen hitems =>
          obtain ⟨cs, rest, hunit⟩ := hitems.exists_of_mem (t := .str ufmec) (by simp)
          exact hunit.not_mem_of_str
      | scalar hopen hblank hquote hrun hstops htrim hvalue => cases hvalue
  | num | bool => exact ⟨trivial, trivial⟩
  | string s => exact ⟨trivial, hderives.not_mem_of_str⟩

/-- A value that its literal shows is read from it, up to the signs of its zeros. -/
theorem parse_literal_of_shown {v : DataValue} (hshown : v.Shown) (hquote : v.QuoteFree) :
    parse v.literal = .ok v.unsigned := by
  rw [parse_literal hquote, asWritten_eq_unsigned hshown]

/-- A value that shows everything is read back as the type that it fits. -/
theorem parseAs_literal_of_shown {v : DataValue} {declared : String} (hshown : v.Shown)
    (hquote : v.QuoteFree) (hfits : v.fits declared = true) :
    parseAs declared v.literal = .ok v.unsigned := by
  rw [← fits_mapNumbers] at hfits
  exact parseAs_of_parse hfits (parse_literal_of_shown hshown hquote)

/-- **Rendering settles**: a value that was read is read again from its literal, by its shape and as
its own type, and what is read is the value up to the signs of its zeros, with the same literal. -/
theorem literal_settles {text : String} {v : DataValue} (h : parse text = .ok v) :
    parse v.literal = .ok v.unsigned ∧ parseAs v.dataType v.literal = .ok v.unsigned ∧
      v.unsigned.dataType = v.dataType ∧ v.unsigned.literal = v.literal := by
  obtain ⟨hshown, hquote⟩ := shown_of_parse h
  exact ⟨parse_literal_of_shown hshown hquote,
    parseAs_literal_of_shown hshown hquote v.fits_dataType, dataType_mapNumbers, v.literal_unsigned⟩

/-- A tool with the zero that loses its sign, infinities, and a number that is none. -/
theorem literal_settles_tool :
    let text := " [TRUE, [[-0,-inf,NaN],[1,0,0,0]] ,[-0,[0,0,1e400],[1,0,0,0],0,0,0]] ;"
    let v : DataValue := .tooldata
      ⟨true, ⟨#v[.zero true, .infinite true, .nan], #v[1, 0, 0, 0], {}, .unused⟩,
        ⟨.zero true, #v[0, 0, .infinite false], #v[1, 0, 0, 0], #v[0, 0, 0]⟩⟩
    parse text = .ok v ∧ v.unsigned ≠ v ∧
      v.literal = "[TRUE,[[0,-inf,NaN],[1,0,0,0]],[0,[0,0,inf],[1,0,0,0],0,0,0]]" ∧
      parse v.literal = .ok v.unsigned ∧ parseAs "tooldata" v.literal = .ok v.unsigned ∧
      v.unsigned.dataType = "tooldata" ∧ v.unsigned.literal = v.literal := by
  intro text v
  have hparse : parse text = .ok v := by decide +kernel
  exact ⟨hparse, by decide +kernel, by decide +kernel, literal_settles hparse⟩

end DataValue

end RobotCell
