import RobotCell.Controller.ModuleScan
import RobotCell.Program.Document
import RobotCell.Proofs.Motion.ReadBack

/-!
# RobotCell.Proofs.Controller.ModuleScan

What a scan finds in the text of a module.

`Scans` follows the scan line by line.  A text is put together from blocks, each a run of whole
lines with the declarations that the scan finds in it (`ScanBlock`): lines that declare nothing,
data lines, and blocks one after another.

Any text with a header at the start of some line (`HasHeader`) and with the word for the end is
scanned (`LoadedModule.exists_scan`).
-/

namespace RobotCell.ModuleScan

/-! ## Lines -/

/-- A text from a line start on, and the declarations that are found in it. -/
inductive Scans : List Char → List Declared → Prop where
  | found {cs below : List Char} {d : Declared} {ds : List Declared}
      (h : declaration? cs = some (d, below)) (hlt : below.length < cs.length)
      (rest : Scans below ds) : Scans cs (d :: ds)
  | skip {cs rest : List Char} {ds : List Declared} (h : declaration? cs = none)
      (hnext : nextLine? cs = some rest) (more : Scans rest ds) : Scans cs ds
  | done {cs : List Char} (h : declaration? cs = none) (hnext : nextLine? cs = none) : Scans cs []

/-- The line below is further on in the text. -/
theorem length_of_nextLine? {cs rest : List Char} (h : nextLine? cs = some rest) :
    rest.length < cs.length := by
  unfold nextLine? at h
  split at h
  · rename_i c more heq
    obtain rfl := Option.some.inj h
    have := (List.dropWhile_sublist (l := cs) (· != '\n')).length_le
    rw [heq, List.length_cons] at this
    omega
  · cases h

/-- A bound beyond the length of the text is never reached. -/
theorem Scans.declarations_eq {cs : List Char} {ds : List Declared} (h : Scans cs ds) {bound : Nat}
    (hbound : cs.length < bound) : declarations bound cs = ds := by
  induction h generalizing bound with
  | found hdecl hlt _ ih =>
      obtain ⟨b, rfl⟩ : ∃ b, bound = b + 1 := ⟨bound - 1, by omega⟩
      simp only [declarations, hdecl, ih (show _ < b by omega)]
  | skip hdecl hnext _ ih =>
      obtain ⟨b, rfl⟩ : ∃ b, bound = b + 1 := ⟨bound - 1, by omega⟩
      have := length_of_nextLine? hnext
      simp only [declarations, hdecl, hnext, ih (show _ < b by omega)]
  | done hdecl hnext =>
      obtain ⟨b, rfl⟩ : ∃ b, bound = b + 1 := ⟨bound - 1, by omega⟩
      simp only [declarations, hdecl, hnext]

/-- A declaration may start after blanks, line ends among them. -/
theorem declaration?_cons_of_blank {c : Char} {cs : List Char} (h : isBlank c = true) :
    declaration? (c :: cs) = declaration? cs := by
  have htrim : trimStart (c :: cs) = trimStart cs := List.dropWhile_cons_of_pos h
  simp only [declaration?, htrim]

/-- The line below begins behind the first line end. -/
theorem nextLine?_cons (c : Char) (cs : List Char) :
    nextLine? (c :: cs) = if c = '\n' then some cs else nextLine? cs := by
  unfold nextLine?
  by_cases hc : c = '\n'
  · simp [hc]
  · simp [hc]

/-- A text without a line end is passed over with the line end behind it. -/
theorem nextLine?_append {line : List Char} (h : '\n' ∉ line) (rest : List Char) :
    nextLine? (line ++ '\n' :: rest) = some rest := by
  induction line with
  | nil => exact nextLine?_cons '\n' rest
  | cons c cs ih =>
      rw [List.cons_append, nextLine?_cons, if_neg fun hc => h (by simp [hc])]
      exact ih fun hmem => h (List.mem_cons_of_mem c hmem)

/-- A blank above declarations changes nothing. -/
theorem Scans.cons_blank {c : Char} {cs : List Char} {ds : List Declared} (h : Scans cs ds)
    (hc : isBlank c = true) : Scans (c :: cs) ds := by
  have hdecl := @declaration?_cons_of_blank c cs hc
  have hnext := nextLine?_cons c cs
  by_cases hline : c = '\n'
  · rw [if_pos hline] at hnext
    cases h with
    | found hfound hlt rest => exact .found (hdecl.trans hfound) (Nat.lt_succ_of_lt hlt) rest
    | skip hnone hmore more => exact .skip (hdecl.trans hnone) hnext (.skip hnone hmore more)
    | done hnone hend => exact .skip (hdecl.trans hnone) hnext (.done hnone hend)
  · rw [if_neg hline] at hnext
    cases h with
    | found hfound hlt rest => exact .found (hdecl.trans hfound) (Nat.lt_succ_of_lt hlt) rest
    | skip hnone hmore more => exact .skip (hdecl.trans hnone) (hnext.trans hmore) more
    | done hnone hend => exact .done (hdecl.trans hnone) (hnext.trans hend)

/-- The declarations below blanks, however many lines they run over. -/
def ScansBelow (cs : List Char) (ds : List Declared) : Prop := Scans (trimStart cs) ds

/-- Below blanks the scan finds what it finds below one more. -/
theorem scansBelow_cons_blank {c : Char} {cs : List Char} {ds : List Declared}
    (hc : isBlank c = true) : ScansBelow (c :: cs) ds ↔ ScansBelow cs ds := by
  unfold ScansBelow trimStart
  rw [List.dropWhile_cons_of_pos hc]

/-- What is found below blanks is found from the blanks on. -/
theorem ScansBelow.scans {cs : List Char} {ds : List Declared} (h : ScansBelow cs ds) :
    Scans cs ds := by
  induction cs with
  | nil => exact h
  | cons c cs ih =>
      by_cases hc : isBlank c = true
      · exact (ih ((scansBelow_cons_blank hc).mp h)).cons_blank hc
      · rw [ScansBelow, trimStart_of_head (Bool.eq_false_iff.mpr hc)] at h
        exact h

/-! ## Blanks and words -/

/-- Blanks before something else are trimmed. -/
theorem trimStart_append {blanks : List Char} (h : ∀ c ∈ blanks, isBlank c = true)
    (rest : List Char) : trimStart (blanks ++ rest) = trimStart rest :=
  List.dropWhile_append_of_pos h

/-- All the blanks before something else are passed over. -/
theorem afterBlanks?_append {blanks rest : List Char} (hne : blanks ≠ [])
    (h : ∀ c ∈ blanks, isBlank c = true) (hrest : ∀ c ∈ rest.head?, isBlank c = false) :
    afterBlanks? (blanks ++ rest) = some rest := by
  obtain ⟨b, bs, rfl⟩ := List.exists_cons_of_ne_nil hne
  rw [List.forall_mem_cons] at h
  rw [List.cons_append, afterBlanks?, if_pos h.1, trimStart_append h.2]
  cases rest with
  | nil => rfl
  | cons c cs => rw [trimStart_of_head (hrest c rfl)]

/-- No blank is a letter, a digit or an underscore. -/
theorem isBlank_of_isAsciiWord {c : Char} (h : isAsciiWord c = true) : isBlank c = false := by
  have hrange : 48 ≤ c.toNat ∧ c.toNat ≤ 122 := by
    delta isAsciiWord Char.isAlphanum Char.isAlpha Char.isUpper Char.isLower Char.isDigit at h
    simp only [Bool.or_eq_true, decide_eq_true_eq, beq_iff_eq, UInt32.le_iff_toNat_le,
      Bool.and_eq_true] at h
    rcases h with (⟨h1, h2⟩ | ⟨h1, h2⟩) | ⟨h1, h2⟩ | rfl <;> simp_all <;> omega
  simp only [isBlank, blankRanges, List.any_cons, List.any_nil, Bool.or_false, Bool.or_eq_false_iff,
    Bool.and_eq_false_iff, decide_eq_false_iff_not]
  omega

/-- A name of ASCII letters, digits and underscores. -/
structure IsName (s : String) : Prop where
  ne_empty : s ≠ ""
  chars : ∀ c ∈ s.toList, isAsciiWord c = true

instance (s : String) : Decidable (IsName s) :=
  decidable_of_iff (s ≠ "" ∧ s.toList.all isAsciiWord = true)
    ⟨fun h => ⟨h.1, List.all_eq_true.mp h.2⟩, fun h => ⟨h.ne_empty, List.all_eq_true.mpr h.chars⟩⟩

/-- A name starts with a character that is not blank. -/
theorem IsName.exists_cons {s : String} (h : IsName s) :
    ∃ c cs, s.toList = c :: cs ∧ isBlank c = false := by
  obtain ⟨c, cs, hcs⟩ := List.exists_cons_of_ne_nil fun hnil =>
    h.ne_empty (String.toList_inj.mp (hnil.trans String.toList_empty.symm))
  exact ⟨c, cs, hcs, isBlank_of_isAsciiWord (h.chars c (by simp [hcs]))⟩

/-- A name is the word before the next character that is no word character. -/
theorem IsName.word? {s : String} (h : IsName s) {c : Char} (hc : isWord c = false)
    (rest : List Char) : word? (s.toList ++ c :: rest) = some (s.toList, c :: rest) := by
  have hrun : ∀ d ∈ s.toList, isWord d = true := fun d hd => isWord_of_isAsciiWord (h.chars d hd)
  obtain ⟨d, ds, hds, -⟩ := h.exists_cons
  have htake : (s.toList ++ c :: rest).takeWhile isWord = s.toList := by
    rw [List.takeWhile_append_of_pos hrun, List.takeWhile_cons_of_neg (by simp [hc]),
      List.append_nil]
  have hdrop : (s.toList ++ c :: rest).dropWhile isWord = c :: rest := by
    rw [List.dropWhile_append_of_pos hrun, List.dropWhile_cons_of_neg (by simp [hc])]
  rw [ModuleScan.word?, htake, hdrop, hds]
  rfl

/-- A name after a space. -/
theorem IsName.afterBlanks? {s : String} (h : IsName s) (rest : List Char) :
    afterBlanks? (' ' :: (s.toList ++ rest)) = some (s.toList ++ rest) := by
  obtain ⟨c, cs, hcs, hc⟩ := h.exists_cons
  exact afterBlanks?_append (List.cons_ne_nil ' ' []) (List.all_eq_true.mp (by decide))
    (by simp [hcs, hc])

/-! ## Data lines -/

/-- A value that stands on one line, without blanks around it. -/
structure IsValue (s : String) : Prop where
  inline : ∀ c ∈ s.toList, isInline c = true
  head : ∀ c ∈ s.toList.head?, isBlank c = false
  trimmed : trim s.toList = s.toList

/-- A list of printed texts is such a value. -/
theorem isValue_bracketed {texts : List String} {ts : List Literal} (h : PrintedAll texts ts)
    (hne : texts ≠ []) : IsValue (bracketed texts) where
  inline := (h.bracketed hne).inline
  head c hc := by
    rw [toList_bracketed] at hc
    obtain rfl := Option.some.inj hc
    rfl
  trimmed := trim_bracketed texts

/-- There are no blanks before a value. -/
theorem IsValue.trimStart {s : String} (h : IsValue s) {c : Char} (hc : isBlank c = false)
    (rest : List Char) : trimStart (s.toList ++ c :: rest) = s.toList ++ c :: rest := by
  have hhead := h.head
  cases hs : s.toList with
  | nil => exact trimStart_of_head hc
  | cons d ds =>
      rw [hs] at hhead
      exact trimStart_of_head (hhead d rfl)

/-- What comes after a line: its end, or the end of the text. -/
def AtLineEnd (rest : List Char) : Prop := rest = [] ∨ ∃ more, rest = '\n' :: more

theorem atLineEnd_cons (rest : List Char) : AtLineEnd ('\n' :: rest) := .inr ⟨rest, rfl⟩

/-- Only blanks may stand between a semicolon and the line end. -/
theorem afterLineEnd?_append {blanks rest : List Char} (h : ∀ c ∈ blanks, isBlank c = true)
    (hrest : AtLineEnd rest) : afterLineEnd? (blanks ++ rest) = some (trimStart rest) := by
  rw [afterLineEnd?, trimStart_append h]
  rcases hrest with rfl | ⟨more, rfl⟩
  · rfl
  · have hline : ((blanks ++ '\n' :: more).takeWhile isBlank).contains '\n' = true := by
      rw [List.takeWhile_append_of_pos h, List.takeWhile_cons_of_pos rfl]
      simp
    simp only [hline, Bool.or_true, if_true]

/-- A value ends at the semicolon before the end of its line. -/
theorem value?_append {cs tail below : List Char} (h : ∀ c ∈ cs, isInline c = true)
    (htail : afterLineEnd? tail = some below) : value? (cs ++ ';' :: tail) = some (cs, below) := by
  induction cs with
  | nil =>
      rw [List.nil_append, value?, if_neg (by decide)]
      simp only [htail, if_true]
  | cons c cs ih =>
      have hc : c ≠ '\n' ∧ c ≠ ';' := by
        simpa [isInline] using h c List.mem_cons_self
      have hmore := ih fun d hd => h d (List.mem_cons_of_mem c hd)
      rw [List.cons_append, value?, if_neg hc.1]
      simp only [hmore, if_neg hc.2, Option.map_some]

/-- A storage class is recognized by its keywords. -/
theorem afterStorage?_keyword (storage : Storage) (rest : List Char) :
    afterStorage? (trimStart (storage.keyword.toList ++ ' ' :: rest)) = some (' ' :: rest) := by
  cases storage <;> rfl

/-- The line of a datum, from its first keyword to its semicolon. -/
def lineChars (storage : Storage) (type name value : String) : List Char :=
  storage.keyword.toList ++ ' ' :: (type.toList ++ ' ' :: (name.toList ++
    ':' :: '=' :: (value.toList ++ [';'])))

/-- A data line is one declaration. -/
theorem declaration?_lineChars (storage : Storage) {type name value : String} (htype : IsName type)
    (hname : IsName name) (hvalue : IsValue value) (rest : List Char) :
    declaration? (lineChars storage type name value ++ '\n' :: rest) =
      some (⟨type, name, value⟩, trimStart rest) := by
  have hvalueChars : value? (value.toList ++ ';' :: '\n' :: rest) =
      some (value.toList, trimStart rest) :=
    value?_append hvalue.inline (afterLineEnd?_append (List.forall_mem_nil _) (atLineEnd_cons rest))
  have hinitializer : initializer? (trimStart (':' :: '=' :: (value.toList ++ ';' :: '\n' :: rest))) =
      some (value.toList, trimStart rest) := by
    rw [trimStart_of_head (by decide), initializer?, hvalue.trimStart (by decide), hvalueChars]
  simp only [declaration?, lineChars, List.append_assoc, List.cons_append, List.nil_append]
  simp only [afterStorage?_keyword, Option.bind_eq_bind, Option.bind_some, htype.afterBlanks?,
    htype.word? (by decide : isWord ' ' = false), hname.afterBlanks?,
    hname.word? (by decide : isWord ':' = false), hinitializer, hvalue.trimmed, String.ofList_toList]
  rfl

/-! ## Blocks -/

/-- The text of whole lines. -/
def linesText (ls : List String) : String := String.join (ls.map fun l => "\n" ++ l)

/-- Whole lines, each after its line end, with the declarations in them. -/
structure ScanBlock (text : String) (found : List Declared) : Prop where
  starts : ∀ rest, ∃ more, text.toList ++ '\n' :: rest = '\n' :: more
  finds : ∀ rest ds, ScansBelow ('\n' :: rest) ds →
    ScansBelow (text.toList ++ '\n' :: rest) (found ++ ds)

namespace ScanBlock

theorem empty : ScanBlock "" [] := ⟨fun rest => ⟨rest, rfl⟩, fun _ _ h => h⟩

/-- Two blocks are one, with the declarations of the first before those of the second. -/
theorem append {s t : String} {as bs : List Declared} (hs : ScanBlock s as) (ht : ScanBlock t bs) :
    ScanBlock (s ++ t) (as ++ bs) where
  starts rest := by
    obtain ⟨more, hmore⟩ := ht.starts rest
    rw [String.toList_append, List.append_assoc, hmore]
    exact hs.starts more
  finds rest ds h := by
    obtain ⟨more, hmore⟩ := ht.starts rest
    have hlater := ht.finds rest ds h
    rw [hmore] at hlater
    rw [String.toList_append, List.append_assoc, List.append_assoc, hmore]
    exact hs.finds more (bs ++ ds) hlater

/-- Blocks one after another are one. -/
theorem join {α : Type} {text : α → String} {found : α → List Declared} {as : List α}
    (h : ∀ a ∈ as, ScanBlock (text a) (found a)) :
    ScanBlock (String.join (as.map text)) (as.flatMap found) := by
  induction as with
  | nil => exact empty
  | cons a as ih =>
      rw [List.map_cons, String.join_cons, List.flatMap_cons]
      exact (h a List.mem_cons_self).append (ih fun b hb => h b (List.mem_cons_of_mem a hb))

/-- A line that has no line end in it and starts no declaration, whatever follows it. -/
structure Plain (line : String) : Prop where
  inline : '\n' ∉ line.toList
  start : ∃ c cs, trimStart line.toList = c :: cs ∧ isBlank c = false ∧
    ∀ rest, afterStorage? (c :: cs ++ rest) = none

/-- A line that declares nothing is a block without declarations. -/
theorem plain {line : String} (h : Plain line) : ScanBlock ("\n" ++ line) [] where
  starts rest := ⟨line.toList ++ '\n' :: rest, by simp⟩
  finds rest ds hrest := by
    obtain ⟨c, cs, hcs, hc, hnone⟩ := h.start
    have hblanks : ∀ d ∈ line.toList.takeWhile isBlank, isBlank d = true :=
      List.all_eq_true.mp List.all_takeWhile
    have hline : line.toList.takeWhile isBlank ++ c :: cs = line.toList := by
      rw [← hcs]
      exact List.takeWhile_append_dropWhile
    have hinline : '\n' ∉ c :: cs := fun hmem =>
      h.inline (hline ▸ List.mem_append_right _ hmem)
    have htrim : trimStart (line.toList ++ '\n' :: rest) = c :: cs ++ '\n' :: rest := by
      rw [← hline, List.append_assoc, trimStart, List.dropWhile_append_of_pos hblanks]
      exact trimStart_of_head hc
    have hdecl : declaration? (c :: cs ++ '\n' :: rest) = none := by
      rw [declaration?, List.cons_append, trimStart_of_head hc, ← List.cons_append, hnone]
      rfl
    have hscans := ((scansBelow_cons_blank rfl).mp hrest).scans
    have hchars : ("\n" ++ line).toList ++ '\n' :: rest =
        '\n' :: (line.toList ++ '\n' :: rest) := by simp
    rw [hchars, List.nil_append, scansBelow_cons_blank rfl, ScansBelow, htrim]
    exact .skip hdecl (nextLine?_append hinline rest) hscans

/-- So is an empty line. -/
theorem blank : ScanBlock "\n" [] where
  starts rest := ⟨'\n' :: rest, rfl⟩
  finds _ _ h := (scansBelow_cons_blank rfl).mpr h

/-- The line of a datum is one declaration. -/
theorem data (storage : Storage) {type name value : String} (htype : IsName type)
    (hname : IsName name) (hvalue : IsValue value) :
    ScanBlock (Binding.text ⟨storage, type, name, some value⟩) [⟨type, name, value⟩] := by
  have hchars (rest : List Char) :
      (Binding.text ⟨storage, type, name, some value⟩).toList ++ '\n' :: rest =
        '\n' :: '\t' :: (lineChars storage type name value ++ '\n' :: rest) := by
    simp [Binding.text, lineChars]
  refine ⟨fun rest => ⟨_, hchars rest⟩, fun rest ds h => ?_⟩
  have htrim : trimStart (lineChars storage type name value ++ '\n' :: rest) =
      lineChars storage type name value ++ '\n' :: rest := by
    cases storage <;> exact trimStart_of_head rfl
  have hlt : (trimStart rest).length <
      (lineChars storage type name value ++ '\n' :: rest).length := by
    have := (List.dropWhile_sublist (l := rest) isBlank).length_le
    rw [List.length_append, List.length_cons, trimStart]
    omega
  rw [hchars, scansBelow_cons_blank rfl, scansBelow_cons_blank rfl, ScansBelow, htrim]
  exact .found (declaration?_lineChars storage htype hname hvalue rest) hlt
    ((scansBelow_cons_blank rfl).mp h)

/-- Lines that declare nothing, empty ones among them. -/
theorem lines {ls : List String} (h : ∀ l ∈ ls, l = "" ∨ Plain l) : ScanBlock (linesText ls) [] := by
  have hjoin : ScanBlock (linesText ls) (ls.flatMap fun _ => []) := by
    refine join fun l hl => ?_
    rcases h l hl with rfl | hplain
    · exact blank
    · exact plain hplain
  rwa [List.flatMap_eq_nil_iff.mpr fun _ _ => rfl] at hjoin

end ScanBlock

/-! ## Documents -/

/-- A part of a text is contained in it. -/
theorem contains_append (before part rest : List Char) :
    contains part (before ++ (part ++ rest)) = true := by
  induction before with
  | nil =>
      have hprefix : part.isPrefixOf (part ++ rest) = true :=
        List.isPrefixOf_iff_prefix.mpr (List.prefix_append part rest)
      cases hcs : part ++ rest with
      | nil =>
          obtain ⟨rfl, -⟩ := List.append_eq_nil_iff.mp hcs
          rfl
      | cons c cs =>
          rw [hcs] at hprefix
          rw [List.nil_append, contains, hprefix, Bool.true_or]
  | cons c cs ih =>
      rw [List.cons_append, contains, ih, Bool.or_true]

/-- The lines above the data. -/
def dataLines : List String := ["\t! Program data", ""]

/-- The lines between the data and the targets. -/
def targetLines : List String := ["", "\t! Target data"]

/-- The lines between the targets and the instructions. -/
def routineLines : List String :=
  ["", "\t! Routine", "\tPROC main()", "\t\tConfL\\Off;", "\t\tSingArea\\Wrist;", "\t\trStart;",
    "\t\tRETURN;", "\tENDPROC", "", "\tPROC rStart()", "", "\t\t! instructions"]

/-- The lines below the instructions. -/
def closingLines : List String := ["\t\tRETURN;", "\tENDPROC", "", "ENDMODULE"]

/-- A document is its header and whole lines. -/
theorem render_eq (m : ProgramModule) :
    m.render = "MODULE MainModule" ++ (linesText dataLines ++ String.join m.tools ++ "\n" ++
      String.join m.wobjs ++ linesText targetLines ++ String.join m.declarations ++
      linesText routineLines ++ String.join m.instructions ++ linesText closingLines) ++ "\n" := by
  have hheader : "MODULE MainModule" = "MODULE " ++ moduleName := by decide
  have hdata : linesText dataLines = "\n\t! Program data\n" := by decide
  have htargets : linesText targetLines = "\n\n\t! Target data" := by decide
  have hroutine : linesText routineLines =
      "\n\n\t! Routine\n\tPROC main()\n\t\tConfL\\Off;\n\t\tSingArea\\Wrist;\n\t\trStart;\n" ++
        "\t\tRETURN;\n\tENDPROC\n\n\tPROC rStart()\n\n\t\t! instructions" := by decide
  have hclosing : linesText closingLines ++ "\n" =
      "\n\t\tRETURN;\n\tENDPROC\n\nENDMODULE\n" := by decide
  -- not `rw`, which would go on to compare the two sides character by character
  unfold ProgramModule.render
  rewrite [hheader, hdata, htargets, hroutine, ← hclosing]
  simp only [String.append_assoc]

/-- The fixed lines start with a comment sign or a word that is no storage class. -/
theorem plain_fixedLines :
    ∀ l ∈ dataLines ++ targetLines ++ routineLines ++ closingLines, l = "" ∨ ScanBlock.Plain l := by
  intro l hl
  simp only [dataLines, targetLines, routineLines, closingLines, List.cons_append, List.nil_append,
    List.mem_cons, List.not_mem_nil, or_false] at hl
  rcases hl with rfl | rfl | rfl | rfl | rfl | rfl | rfl | rfl | rfl | rfl | rfl | rfl | rfl | rfl |
    rfl | rfl | rfl | rfl | rfl | rfl <;>
  first
  | exact .inl rfl
  | exact .inr ⟨by decide, _, _, rfl, by decide, fun _ => rfl⟩

/-- **A rendered document is scanned** as a module with the data of its blocks, in their order. -/
theorem scan_render {m : ProgramModule} {tools wobjs declarations : List Declared}
    (htools : ScanBlock (String.join m.tools) tools) (hwobjs : ScanBlock (String.join m.wobjs) wobjs)
    (hdeclarations : ScanBlock (String.join m.declarations) declarations)
    (hinstructions : ScanBlock (String.join m.instructions) []) :
    LoadedModule.scan m.render = .ok ⟨moduleName, (tools ++ wobjs ++ declarations).map fun d =>
      ⟨moduleName, d.name, d.dataType, d.value⟩⟩ := by
  have hfixed (ls : List String)
      (hls : ∀ l ∈ ls, l ∈ dataLines ++ targetLines ++ routineLines ++ closingLines) :
      ScanBlock (linesText ls) [] := ScanBlock.lines fun l hl => plain_fixedLines l (hls l hl)
  obtain ⟨body, hbody, hblock⟩ : ∃ body, m.render = "MODULE MainModule" ++ body ++ "\n" ∧
      ScanBlock body (tools ++ wobjs ++ declarations) := by
    refine ⟨_, render_eq m, ?_⟩
    have hblock := ((((((((hfixed dataLines (by simp +contextual)).append htools).append
      .blank).append hwobjs).append (hfixed targetLines (by simp +contextual))).append
      hdeclarations).append (hfixed routineLines (by simp +contextual))).append
      hinstructions).append (hfixed closingLines (by simp +contextual))
    simpa using hblock
  obtain ⟨more, hmore⟩ := hblock.starts []
  have hchars : m.render.toList = "MODULE MainModule".toList ++ '\n' :: more := by
    rw [hbody, String.toList_append, String.toList_append, List.append_assoc]
    exact congrArg ("MODULE MainModule".toList ++ ·) hmore
  have hname (bound : Nat) : moduleName? (bound + 1) m.render.toList = some moduleName := by
    rw [hchars]
    rfl
  have hend : contains "ENDMODULE".toList m.render.toList = true := by
    have hclosing : (linesText closingLines).toList =
        "\n\t\tRETURN;\n\tENDPROC\n\n".toList ++ "ENDMODULE".toList := by decide
    rw [render_eq, ← String.append_assoc, String.toList_append, String.toList_append, hclosing,
      ← List.append_assoc, List.append_assoc]
    exact contains_append _ _ _
  have hdecls : Scans m.render.toList (tools ++ wobjs ++ declarations) := by
    have hbelow := hblock.finds [] [] (.done rfl rfl)
    rw [hmore, List.append_nil, scansBelow_cons_blank rfl] at hbelow
    rw [hchars]
    exact .skip rfl rfl hbelow.scans
  simp only [LoadedModule.scan, hname, hend, if_true, hdecls.declarations_eq (Nat.lt_succ_self _)]

/-! ## Headers -/

/-- No word character is blank. -/
theorem not_isWord_of_isBlank {c : Char} (h : isBlank c = true) : isWord c = false := by
  have hcodes : ∀ r ∈ blankRanges, ∀ n ∈ List.range' r.1 (r.2 + 1 - r.1),
      isWord (Char.ofNat n) = false := by
    decide +kernel
  obtain ⟨r, hr, hrange⟩ := List.any_eq_true.mp h
  simp only [Bool.and_eq_true, decide_eq_true_eq] at hrange
  have hword := hcodes r hr c.toNat (List.mem_range'_1.mpr (by omega))
  rwa [Char.ofNat_toNat] at hword

/-- A line that starts a module: blanks, the keyword, blanks and a word. -/
structure IsHeader (line lead gap name rest : List Char) : Prop where
  line_eq : line = lead ++ ("MODULE".toList ++ (gap ++ (name ++ rest)))
  lead_blank : ∀ c ∈ lead, isBlank c = true
  gap_ne : gap ≠ []
  gap_blank : ∀ c ∈ gap, isBlank c = true
  name_ne : name ≠ []
  name_word : ∀ c ∈ name, isWord c = true

/-- A header stands at the start of a line. -/
def HasHeader (cs : List Char) : Prop :=
  ∃ above line lead gap name rest, cs = above ++ line ∧ (above = [] ∨ above.getLast? = some '\n') ∧
    IsHeader line lead gap name rest

/-- A header gives the whole word behind its keyword. -/
theorem IsHeader.headerName?_eq {line lead gap name rest : List Char}
    (h : IsHeader line lead gap name rest) :
    headerName? line = some (String.ofList ((name ++ rest).takeWhile isWord)) := by
  obtain ⟨c, cs, hcs⟩ := List.exists_cons_of_ne_nil h.name_ne
  have hword : isWord c = true := h.name_word c (by simp [hcs])
  have hstart : isBlank c = false := by
    cases hblank : isBlank c with
    | false => rfl
    | true => cases (not_isWord_of_isBlank hblank).symm.trans hword
  have hkeyword : trimStart line = "MODULE".toList ++ (gap ++ (name ++ rest)) := by
    rw [h.line_eq, trimStart_append h.lead_blank]
    rfl
  have hgap : afterBlanks? (gap ++ (name ++ rest)) = some (name ++ rest) :=
    afterBlanks?_append h.gap_ne h.gap_blank (by simp [hcs, hstart])
  have hne : ((name ++ rest).takeWhile isWord).isEmpty = false := by
    rw [hcs, List.cons_append, List.takeWhile_cons_of_pos hword]
    rfl
  have hname : word? (name ++ rest) =
      some ((name ++ rest).takeWhile isWord, (name ++ rest).dropWhile isWord) := by
    rw [word?, hne]
    rfl
  have hafter : afterKeyword? "MODULE" ("MODULE".toList ++ (gap ++ (name ++ rest))) =
      some (gap ++ (name ++ rest)) := rfl
  simp only [headerName?, hkeyword, hafter, Option.bind_eq_bind, Option.bind_some, hgap, hname]
  rfl

/-- A header that is there is found. -/
theorem HasHeader.exists_name {cs : List Char} (h : HasHeader cs) {bound : Nat}
    (hbound : cs.length < bound) : ∃ name, moduleName? bound cs = some name := by
  induction bound generalizing cs with
  | zero => omega
  | succ bound ih =>
      rw [moduleName?]
      cases hname : headerName? cs with
      | some name => exact ⟨name, rfl⟩
      | none =>
          obtain ⟨above, line, lead, gap, name, rest, rfl, habove, hline⟩ := h
          rcases habove with rfl | hlast
          · cases hname.symm.trans hline.headerName?_eq
          · have hmem : '\n' ∈ above := List.mem_of_getLast? hlast
            obtain ⟨first, more, rfl, hfirst⟩ := List.eq_append_cons_of_mem hmem
            have hnext : nextLine? (first ++ '\n' :: more ++ line) = some (more ++ line) := by
              rw [List.append_assoc]
              exact nextLine?_append hfirst (more ++ line)
            have hlower : more = [] ∨ more.getLast? = some '\n' := by
              cases more with
              | nil => exact .inl rfl
              | cons c cs =>
                  right
                  simpa using hlast
            have hmore : HasHeader (more ++ line) :=
              ⟨more, line, lead, gap, name, rest, rfl, hlower, hline⟩
            rw [hnext]
            refine ih hmore ?_
            have := length_of_nextLine? hnext
            omega

end RobotCell.ModuleScan

namespace RobotCell

/-- **A module with a header and an end is scanned.** -/
theorem LoadedModule.exists_scan {text : String} (hheader : ModuleScan.HasHeader text.toList)
    (hend : "ENDMODULE".toList <:+: text.toList) : ∃ m, LoadedModule.scan text = .ok m := by
  obtain ⟨name, hname⟩ := hheader.exists_name (Nat.lt_succ_self _)
  obtain ⟨before, rest, hchars⟩ := hend
  have hcontains : ModuleScan.contains "ENDMODULE".toList text.toList = true := by
    rw [← hchars, List.append_assoc]
    exact ModuleScan.contains_append before "ENDMODULE".toList rest
  simp only [LoadedModule.scan, hname, hcontains, if_true]
  exact ⟨_, rfl⟩

end RobotCell
