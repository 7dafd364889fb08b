import Mathlib.Data.List.DropRight
import Mathlib.Data.List.Forall2
import RobotCell.Proofs.Controller.ModuleScan
import RobotCell.Proofs.Motion.Grammar

/-!
# RobotCell.Proofs.Controller.ModuleLines

What a scan finds in the lines of a module.

A line declares an item (`LineDeclares`), or it begins with a word that begins no declaration.
Either way the scan does with it what `LineHolds` says and goes on below it, whatever stands there:
blanks behind a declaration are passed over up to the next line, and never beyond its first word.
An induction over the lines then gives the items of a whole module (`LoadedModule.scan_of_lines`).
-/

namespace RobotCell.ModuleScan

/-! ## Lines -/

/-- Spaces and tabs. -/
def IsGap (cs : List Char) : Prop := ∀ c ∈ cs, c = ' ' ∨ c = '\t'

instance (cs : List Char) : Decidable (IsGap cs) :=
  List.decidableBAll (fun c => c = ' ' ∨ c = '\t') cs

theorem IsGap.isBlank {cs : List Char} (h : IsGap cs) : ∀ c ∈ cs, isBlank c = true := fun c hc => by
  rcases h c hc with rfl | rfl <;> decide

/-- The words that begin a declaration. -/
def declaringWords : List String := ["LOCAL", "TASK", "CONST", "VAR", "PERS"]

/-- The first word of a line, up to the next blank. -/
def firstWord (line : List Char) : List Char := (trimStart line).takeWhile fun c => !isBlank c

/-- What may stand before the storage class. -/
inductive IsScope : List Char → Prop
  | none : IsScope []
  | keyword {scope : String} {gap : List Char} (hscope : scope ∈ ["LOCAL", "TASK"])
      (hne : gap ≠ []) (hgap : IsGap gap) : IsScope (scope.toList ++ gap)

/-- What may stand between the name and the semicolon, and the value in it. -/
inductive IsInitial : List Char → List Char → Prop
  | none : IsInitial [] []
  | value {value : List Char} (h : ∀ c ∈ value, isInline c = true) :
      IsInitial (':' :: '=' :: value) value

/-- The parts of a line that declares an item, in their order. -/
inductive LineDeclares : List Char → Declared → Prop
  | intro {lead scope gap gap' lag initial value trail : List Char} {storage type name : String}
      (hlead : IsGap lead) (hscope : IsScope scope) (hstorage : storage ∈ ["CONST", "VAR", "PERS"])
      (hne : gap ≠ []) (hgap : IsGap gap) (htype : IsName type) (hne' : gap' ≠ [])
      (hgap' : IsGap gap') (hname : IsName name) (hlag : IsGap lag)
      (hinitial : IsInitial initial value) (htrail : IsGap trail) :
      LineDeclares
        (lead ++ (scope ++ (storage.toList ++ (gap ++ (type.toList ++ (gap' ++ (name.toList ++
          (lag ++ (initial ++ ';' :: trail)))))))))
        ⟨type, name, String.ofList (trim value)⟩

/-- What a line holds: an item, or nothing if it begins with another word. -/
inductive LineHolds : List Char → Option Declared → Prop
  | item {line : List Char} {d : Declared} (h : LineDeclares line d) : LineHolds line (some d)
  | other {line : List Char} (h : ∀ word ∈ declaringWords, firstWord line ≠ word.toList) :
      LineHolds line none

/-- A line that begins a module of a name. -/
def LineNames (line : List Char) (name : String) : Prop :=
  ∃ lead gap rest, IsHeader line lead gap name.toList rest ∧ ∀ c ∈ rest.head?, isWord c = false

/-! ## Words -/

theorem word?_append {word rest : List Char} (hne : word ≠ []) (hword : ∀ c ∈ word, isWord c = true)
    (hrest : ∀ c ∈ rest.head?, isWord c = false) : word? (word ++ rest) = some (word, rest) := by
  obtain ⟨htake, hdrop⟩ := takeWhile_dropWhile_eq_iff.mpr ⟨rfl, hword, hrest⟩
  rw [word?, htake, hdrop, if_neg (by simpa using hne)]

theorem IsName.word?_append {s : String} (h : IsName s) {rest : List Char}
    (hrest : ∀ c ∈ rest.head?, isWord c = false) :
    ModuleScan.word? (s.toList ++ rest) = some (s.toList, rest) :=
  ModuleScan.word?_append (by simpa using h.ne_empty)
    (fun c hc => isWord_of_isAsciiWord (h.chars c hc)) hrest

/-- A name is no blank, whatever comes after it. -/
theorem IsName.head_append {s : String} (h : IsName s) (rest : List Char) :
    ∀ c ∈ (s.toList ++ rest).head?, isBlank c = false := by
  obtain ⟨c, cs, hcs, hc⟩ := h.exists_cons
  simpa [hcs] using hc

/-- A word ends at a gap, or at what ends it behind the gap. -/
theorem IsGap.head_append {gap : List Char} (h : IsGap gap) {rest : List Char}
    (hrest : gap = [] → ∀ c ∈ rest.head?, isWord c = false) :
    ∀ c ∈ (gap ++ rest).head?, isWord c = false := by
  cases gap with
  | nil => exact hrest rfl
  | cons c cs => simpa using not_isWord_of_isBlank (h.isBlank c List.mem_cons_self)

/-- Blanks before something else belong to what stands before it. -/
theorem trimStart_append_of_head {cs rest : List Char} (h : ∀ c ∈ rest.head?, isBlank c = false) :
    trimStart (cs ++ rest) = trimStart cs ++ rest := by
  rw [trimStart, List.dropWhile_append]
  split
  · rename_i hempty
    rw [trimStart, List.isEmpty_iff.mp hempty]
    cases rest with
    | nil => rfl
    | cons c more => exact trimStart_of_head (h c rfl)
  · rfl

theorem trimStart_append_of_ne_nil {cs : List Char} (h : trimStart cs ≠ []) (rest : List Char) :
    trimStart (cs ++ rest) = trimStart cs ++ rest := by
  rw [trimStart, List.dropWhile_append, if_neg (by simpa [trimStart] using h)]
  rfl

theorem trimStart_trimStart (cs : List Char) : trimStart (trimStart cs) = trimStart cs :=
  List.dropWhile_idempotent isBlank cs

/-! ## Declarations -/

/-- A declaration starts at its first keyword. -/
theorem trimStart_scope {scope : List Char} {storage : String} (hscope : IsScope scope)
    (hstorage : storage ∈ ["CONST", "VAR", "PERS"]) (rest : List Char) :
    trimStart (scope ++ (storage.toList ++ rest)) = scope ++ (storage.toList ++ rest) := by
  simp only [List.mem_cons, List.not_mem_nil, or_false] at hstorage
  cases hscope with
  | none => rcases hstorage with rfl | rfl | rfl <;> rfl
  | keyword hkeyword =>
      simp only [List.mem_cons, List.not_mem_nil, or_false] at hkeyword
      rcases hkeyword with rfl | rfl <;> rfl

theorem afterStorage?_scope {scope gap rest : List Char} {storage : String} (hscope : IsScope scope)
    (hstorage : storage ∈ ["CONST", "VAR", "PERS"]) (hne : gap ≠ []) :
    afterStorage? (scope ++ (storage.toList ++ (gap ++ rest))) = some (gap ++ rest) := by
  simp only [List.mem_cons, List.not_mem_nil, or_false] at hstorage
  obtain ⟨c, cs, rfl⟩ := List.exists_cons_of_ne_nil hne
  cases hscope with
  | none => rcases hstorage with rfl | rfl | rfl <;> rfl
  | @keyword keyword between hkeyword hbetween hblank =>
      have hblanks : afterBlanks? (between ++ (storage.toList ++ (c :: cs ++ rest))) =
          some (storage.toList ++ (c :: cs ++ rest)) := by
        refine afterBlanks?_append hbetween hblank.isBlank ?_
        rcases hstorage with rfl | rfl | rfl <;> exact fun _ h => by cases h; decide
      have hafter : (afterKeywords? ["LOCAL", "TASK"] (keyword.toList ++ (between ++
          (storage.toList ++ (c :: cs ++ rest))))).bind afterBlanks? =
            some (storage.toList ++ (c :: cs ++ rest)) := by
        simp only [List.mem_cons, List.not_mem_nil, or_false] at hkeyword
        rcases hkeyword with rfl | rfl <;> exact hblanks
      rw [List.append_assoc, afterStorage?, hafter]
      rcases hstorage with rfl | rfl | rfl <;> rfl

/-- The value is what stands between the blanks behind the sign and the semicolon. -/
theorem initializer?_append {initial value trail rest : List Char} (h : IsInitial initial value)
    (htrail : IsGap trail) (hrest : AtLineEnd rest) :
    initializer? (initial ++ ';' :: (trail ++ rest)) = some (trimStart value, trimStart rest) := by
  have hend := afterLineEnd?_append htrail.isBlank hrest
  cases h with
  | none =>
      rw [List.nil_append, initializer?, hend]
      rfl
  | value hvalue =>
      have hinline : ∀ c ∈ trimStart value, isInline c = true := fun c hc =>
        hvalue c ((List.dropWhile_sublist _).subset hc)
      rw [List.cons_append, List.cons_append, initializer?,
        trimStart_append_of_head fun c hc => by cases hc; rfl]
      exact value?_append hinline hend

/-- A line that declares an item is read as that, and the scan goes on below it. -/
theorem LineDeclares.declaration?_eq {line : List Char} {d : Declared} (h : LineDeclares line d)
    {rest : List Char} (hrest : AtLineEnd rest) :
    declaration? (line ++ rest) = some (d, trimStart rest) := by
  obtain @⟨lead, scope, gap, gap', lag, initial, value, trail, storage, type, name, hlead, hscope,
    hstorage, hne, hgap, htype, hne', hgap', hname, hlag, hinitial, htrail⟩ := h
  have hstart : ∀ c ∈ (initial ++ ';' :: (trail ++ rest)).head?,
      isBlank c = false ∧ isWord c = false := by
    cases hinitial <;> exact fun c hc => by cases hc; exact ⟨by decide, by decide⟩
  have hinitializer : initializer? (trimStart (lag ++ (initial ++ ';' :: (trail ++ rest)))) =
      some (trimStart value, trimStart rest) := by
    rw [trimStart_append hlag.isBlank, ← List.nil_append (initial ++ _),
      trimStart_append_of_head fun c hc => (hstart c hc).1]
    exact initializer?_append hinitial htrail hrest
  have hvalue : trim (trimStart value) = trim value := congrArg trimEnd (trimStart_trimStart value)
  simp only [declaration?, List.append_assoc, List.cons_append, trimStart_append hlead.isBlank,
    trimStart_scope hscope hstorage, afterStorage?_scope hscope hstorage hne,
    Option.bind_eq_bind, Option.bind_some,
    afterBlanks?_append hne hgap.isBlank (htype.head_append _),
    htype.word?_append (hgap'.head_append fun h => absurd h hne'),
    afterBlanks?_append hne' hgap'.isBlank (hname.head_append _),
    hname.word?_append (hlag.head_append fun _ c hc => (hstart c hc).2),
    hinitializer, hvalue, String.ofList_toList]
  rfl

/-- A declaration may start after blanks. -/
theorem declaration?_trimStart (cs : List Char) : declaration? (trimStart cs) = declaration? cs := by
  simp only [declaration?, trimStart_trimStart]

theorem LineDeclares.trimStart_ne_nil {line : List Char} {d : Declared} (h : LineDeclares line d) :
    trimStart line ≠ [] := by
  intro hblank
  have hsemicolon : ';' ∈ line := by
    cases h
    simp
  exact absurd (List.dropWhile_eq_nil_iff.mp hblank ';' hsemicolon) (by decide)

/-! ## Other lines -/

theorem afterKeywords?_eq_some {keywords : List String} {cs rest : List Char}
    (h : afterKeywords? keywords cs = some rest) :
    ∃ keyword ∈ keywords, cs = keyword.toList ++ rest := by
  induction keywords with
  | nil => cases h
  | cons keyword keywords ih =>
      rw [afterKeywords?] at h
      split at h
      · rename_i found hfound
        obtain rfl := Option.some.inj h
        have hprefix := List.isPrefixOf?_eq_some_iff_append_eq.mp hfound
        exact ⟨keyword, List.mem_cons_self, hprefix.symm⟩
      · obtain ⟨other, hmem, hcs⟩ := ih h
        exact ⟨other, List.mem_cons_of_mem keyword hmem, hcs⟩

/-- A keyword before a blank is the first word. -/
theorem firstWord_of_keyword {cs below keyword rest : List Char}
    (hcs : trimStart cs = keyword ++ rest) (hkeyword : keyword.all (fun c => !isBlank c) = true)
    (hrest : afterBlanks? rest = some below) : firstWord cs = keyword := by
  cases rest with
  | nil => cases hrest
  | cons c more =>
      have hc : isBlank c = true := by
        rw [afterBlanks?] at hrest
        split at hrest
        · assumption
        · cases hrest
      rw [firstWord, hcs, List.takeWhile_append_of_pos (List.all_eq_true.mp hkeyword),
        List.takeWhile_cons_of_neg (by simp [hc]), List.append_nil]

/-- Only a declaring word begins a declaration. -/
theorem declaration?_eq_none {cs : List Char}
    (h : ∀ word ∈ declaringWords, firstWord cs ≠ word.toList) : declaration? cs = none := by
  have hnot (keywords : List String) (hwords : ∀ word ∈ keywords, word ∈ declaringWords)
      {rest below : List Char} (hafter : afterKeywords? keywords (trimStart cs) = some rest)
      (hbelow : afterBlanks? rest = some below) : False := by
    obtain ⟨keyword, hmem, hcs⟩ := afterKeywords?_eq_some hafter
    have hblank : ∀ word ∈ declaringWords, word.toList.all (fun c => !isBlank c) = true := by decide
    exact h keyword (hwords keyword hmem)
      (firstWord_of_keyword hcs (hblank keyword (hwords keyword hmem)) hbelow)
  have hscope : (afterKeywords? ["LOCAL", "TASK"] (trimStart cs)).bind afterBlanks? = none := by
    refine Option.eq_none_iff_forall_ne_some.mpr fun below hbelow => ?_
    obtain ⟨rest, hrest, hblanks⟩ := Option.bind_eq_some_iff.mp hbelow
    exact hnot _ (by decide) hrest hblanks
  have hstorage : (afterStorage? (trimStart cs)).bind afterBlanks? = none := by
    refine Option.eq_none_iff_forall_ne_some.mpr fun below hbelow => ?_
    obtain ⟨rest, hrest, hblanks⟩ := Option.bind_eq_some_iff.mp hbelow
    rw [afterStorage?, hscope] at hrest
    exact hnot _ (by decide) hrest hblanks
  rw [declaration?]
  cases hafter : afterStorage? (trimStart cs) with
  | none => rfl
  | some rest =>
      rw [hafter] at hstorage
      simp only [Option.bind_eq_bind, Option.bind_some]
      rw [show afterBlanks? rest = none from hstorage]
      rfl

/-- The first word of a line ends on the line. -/
theorem firstWord_append {line rest : List Char} (hne : trimStart line ≠ [])
    (hrest : AtLineEnd rest) : firstWord (line ++ rest) = firstWord line := by
  have hend : rest.takeWhile (fun c => !isBlank c) = [] := by
    rcases hrest with rfl | ⟨more, rfl⟩ <;> rfl
  rw [firstWord, trimStart_append_of_ne_nil hne, List.takeWhile_append]
  split
  · rename_i hall
    rw [hend, List.append_nil]
    exact ((List.takeWhile_prefix _).eq_of_length hall).symm
  · rfl

/-! ## All lines -/

/-- Lines, each after its line end. -/
def below (lines : List (List Char)) : List Char := lines.flatMap ('\n' :: ·)

theorem atLineEnd_below (lines : List (List Char)) : AtLineEnd (below lines) := by
  cases lines with
  | nil => exact .inl rfl
  | cons line lines => exact atLineEnd_cons (line ++ below lines)

/-- A text is its first line with the others below it. -/
theorem eq_append_below {text : List Char} {first : List Char} {lines : List (List Char)}
    (h : text.splitOn '\n' = first :: lines) : text = first ++ below lines := by
  have htext : ['\n'].intercalate (text.splitOn '\n') = text := List.intercalate_splitOn '\n'
  rw [h] at htext
  rw [← htext]
  clear h htext
  induction lines generalizing first with
  | nil => simp [below]
  | cons line lines ih => simp [List.intercalate_cons_cons, ih, below]

/-- The lines of a text have no line end in them. -/
theorem not_mem_of_mem_splitOn {text line : List Char} (h : line ∈ text.splitOn '\n') :
    '\n' ∉ line := by
  induction text generalizing line with
  | nil =>
      obtain rfl : line = [] := by simpa using h
      exact List.not_mem_nil
  | cons c text ih =>
      rw [List.splitOn_cons_eq_if_modifyHead] at h
      split at h
      · rcases List.mem_cons.mp h with rfl | hmem
        · exact List.not_mem_nil
        · exact ih hmem
      · rename_i hc
        obtain ⟨first, lines, hsplit⟩ := List.exists_cons_of_ne_nil (List.splitOn_ne_nil '\n' text)
        rw [hsplit] at h ih
        rcases List.mem_cons.mp h with rfl | hmem
        · have hne : c ≠ '\n' := by simpa using hc
          simpa [hne.symm] using ih List.mem_cons_self
        · exact ih (List.mem_cons_of_mem first hmem)

theorem nextLine?_of_inline {line : List Char} (h : '\n' ∉ line) : nextLine? line = none := by
  have hall : line.dropWhile (· != '\n') = [] := by
    rw [List.dropWhile_eq_nil_iff]
    intro c hc
    have hne : c ≠ '\n' := fun hline => h (hline ▸ hc)
    simpa using hne
  rw [nextLine?, hall]

/-- A line that begins with another word holds nothing: the scan goes on below it. -/
theorem scans_of_firstWord {line rest : List Char} {ds : List Declared} (hinline : '\n' ∉ line)
    (hword : ∀ word ∈ declaringWords, firstWord (line ++ rest) ≠ word.toList)
    (hrest : AtLineEnd rest) (h : ScansBelow rest ds) : Scans (line ++ rest) ds := by
  have hnone := declaration?_eq_none hword
  rcases hrest with rfl | ⟨more, rfl⟩
  · cases h with
    | found hfound => cases hfound
    | skip _ hnext => cases hnext
    | done =>
        rw [List.append_nil] at hnone ⊢
        exact .done hnone (nextLine?_of_inline hinline)
  · exact .skip hnone (nextLine?_append hinline more) ((scansBelow_cons_blank rfl).mp h).scans

/-- A scan finds in a line what it holds, and then what is below it. -/
theorem LineHolds.scansBelow {line rest : List Char} {found : Option Declared} {ds : List Declared}
    (h : LineHolds line found) (hinline : '\n' ∉ line) (hrest : AtLineEnd rest)
    (hbelow : ScansBelow rest ds) : ScansBelow (line ++ rest) (found.toList ++ ds) := by
  cases h with
  | item h =>
      have hne := h.trimStart_ne_nil
      have hdecl : declaration? (trimStart (line ++ rest)) = some (_, trimStart rest) :=
        (declaration?_trimStart _).trans (h.declaration?_eq hrest)
      have hlt : (trimStart rest).length < (trimStart (line ++ rest)).length := by
        have hle := (List.dropWhile_sublist (l := rest) isBlank).length_le
        have hpos := List.length_pos_iff.mpr hne
        rw [trimStart_append_of_ne_nil hne, List.length_append, trimStart]
        omega
      exact .found hdecl hlt hbelow
  | other hword =>
      by_cases hne : trimStart line = []
      · -- a blank line is passed over together with the blanks below it
        rw [ScansBelow, trimStart_append (List.dropWhile_eq_nil_iff.mp hne)]
        exact hbelow
      · have hinline' : '\n' ∉ trimStart line := fun hmem =>
          hinline ((List.dropWhile_sublist _).subset hmem)
        rw [ScansBelow, trimStart_append_of_ne_nil hne]
        refine scans_of_firstWord hinline' (fun word hmem => ?_) hrest hbelow
        rw [firstWord_append (by rwa [trimStart_trimStart]) hrest, firstWord, trimStart_trimStart]
        exact hword word hmem

/-- A scan finds in lines what they hold, in their order. -/
theorem scansBelow_below {lines : List (List Char)} {found : List (Option Declared)}
    (h : List.Forall₂ LineHolds lines found) (hinline : ∀ line ∈ lines, '\n' ∉ line) :
    ScansBelow (below lines) (found.flatMap Option.toList) := by
  induction h with
  | nil => exact .done rfl rfl
  | @cons line held lines found hline _ ih =>
      rw [List.forall_mem_cons] at hinline
      refine (scansBelow_cons_blank rfl).mpr ?_
      exact hline.scansBelow hinline.1 (atLineEnd_below lines) (ih hinline.2)

/-! ## First and last lines -/

/-- The first line, with all that is below it. -/
theorem LineNames.exists_header {line : List Char} {name : String} (h : LineNames line name)
    {rest : List Char} (hrest : AtLineEnd rest) :
    ∃ lead gap more, IsHeader (line ++ rest) lead gap name.toList more ∧
      ∀ c ∈ more.head?, isWord c = false := by
  obtain ⟨lead, gap, more, hheader, hmore⟩ := h
  refine ⟨lead, gap, more ++ rest, { hheader with line_eq := by simp [hheader.line_eq] }, ?_⟩
  cases more with
  | cons c more => exact hmore
  | nil =>
      rcases hrest with rfl | ⟨below, rfl⟩
      · simp
      · simpa using (by decide : isWord '\n' = false)

theorem LineNames.headerName?_eq {line : List Char} {name : String} (h : LineNames line name)
    {rest : List Char} (hrest : AtLineEnd rest) : headerName? (line ++ rest) = some name := by
  obtain ⟨lead, gap, more, hheader, hmore⟩ := h.exists_header hrest
  have hword := (takeWhile_dropWhile_eq_iff.mpr ⟨rfl, hheader.name_word, hmore⟩).1
  rw [hheader.headerName?_eq, hword, String.ofList_toList]

/-- A header begins with the word for a module. -/
theorem IsHeader.firstWord_eq {line lead gap name rest : List Char}
    (h : IsHeader line lead gap name rest) : firstWord line = "MODULE".toList := by
  obtain ⟨b, bs, hbs⟩ := List.exists_cons_of_ne_nil h.gap_ne
  have hkeyword : trimStart line = "MODULE".toList ++ (gap ++ (name ++ rest)) := by
    rw [h.line_eq, trimStart_append h.lead_blank]
    rfl
  have hgap : afterBlanks? (gap ++ (name ++ rest)) = some (trimStart (bs ++ (name ++ rest))) := by
    rw [hbs, List.cons_append, afterBlanks?, if_pos (h.gap_blank b (by simp [hbs]))]
  exact firstWord_of_keyword hkeyword (by decide) hgap

/-- The first word of a line is in the text. -/
theorem contains_below {lines : List (List Char)} {line : List Char} (h : line ∈ lines)
    (first : List Char) : contains (firstWord line) (first ++ below lines) = true := by
  obtain ⟨above, more, rfl⟩ := List.append_of_mem h
  have hline : line = line.takeWhile isBlank ++
      (firstWord line ++ (trimStart line).dropWhile fun c => !isBlank c) := by
    rw [firstWord, List.takeWhile_append_dropWhile]
    exact List.takeWhile_append_dropWhile.symm
  have htext : first ++ below (above ++ line :: more) =
      first ++ below above ++ '\n' :: line.takeWhile isBlank ++ (firstWord line ++
        ((trimStart line).dropWhile (fun c => !isBlank c) ++ below more)) := by
    conv_lhs => rw [hline]
    simp [below]
  rw [htext]
  exact contains_append _ _ _

end RobotCell.ModuleScan

namespace RobotCell

open ModuleScan

/-- **A module is scanned line by line.**  If its first line names it, some line begins with the
word for the end, and every line below the first declares an item or begins with a word that begins
no declaration, then it is loaded under its name with exactly the items of its lines, in their
order, each with the type, the name and the trimmed value that its line gives it. -/
theorem LoadedModule.scan_of_lines {text name : String} {first : List Char}
    {lines : List (List Char)} {found : List (Option Declared)}
    (hlines : text.toList.splitOn '\n' = first :: lines) (hname : LineNames first name)
    (hfound : List.Forall₂ LineHolds lines found)
    (hend : ∃ line ∈ lines, firstWord line = "ENDMODULE".toList) :
    LoadedModule.scan text = .ok ⟨name, (found.flatMap Option.toList).map fun d =>
      ⟨name, d.name, d.dataType, d.value⟩⟩ := by
  have htext := eq_append_below hlines
  have hinline : ∀ line ∈ first :: lines, '\n' ∉ line := fun line hmem =>
    not_mem_of_mem_splitOn (hlines ▸ hmem)
  rw [List.forall_mem_cons] at hinline
  have hbelow := atLineEnd_below lines
  have hmodule : moduleName? (text.toList.length + 1) text.toList = some name := by
    rw [moduleName?, htext, hname.headerName?_eq hbelow]
  have hcontains : contains "ENDMODULE".toList text.toList = true := by
    obtain ⟨line, hmem, hword⟩ := hend
    rw [htext, ← hword]
    exact contains_below hmem first
  have hscans : Scans text.toList (found.flatMap Option.toList) := by
    obtain ⟨lead, gap, rest, hheader, -⟩ := hname.exists_header hbelow
    rw [htext]
    refine scans_of_firstWord hinline.1 (fun word hmem => ?_) hbelow
      (scansBelow_below hfound hinline.2)
    rw [hheader.firstWord_eq]
    revert word
    decide
  simp only [scan, hmodule, hcontains, if_true, hscans.declarations_eq (Nat.lt_succ_self _)]

/-- A module with a comment that mentions a declaration, a local item with gaps wherever they may
be, a blank line, an item without a value, and a last line without an end. -/
def sparseModule : String :=
  "MODULE Sparse\n! VAR num a:=1;\n\tLOCAL PERS \tnum b := [ 2, 3 ] ;\t\n \t\nVAR bool c;\nENDMODULE"

theorem LoadedModule.scan_of_lines_sparse :
    LoadedModule.scan sparseModule =
      .ok ⟨"Sparse", [⟨"Sparse", "b", "num", "[ 2, 3 ]"⟩, ⟨"Sparse", "c", "bool", ""⟩]⟩ := by
  let localLine := ['\t'] ++ ("LOCAL".toList ++ [' '] ++ ("PERS".toList ++ ([' ', '\t'] ++
    ("num".toList ++ ([' '] ++ ("b".toList ++ ([' '] ++
      (':' :: '=' :: " [ 2, 3 ] ".toList ++ ';' :: ['\t']))))))))
  let plainLine := [] ++ ([] ++ ("VAR".toList ++ ([' '] ++ ("bool".toList ++ ([' '] ++
    ("c".toList ++ ([] ++ ([] ++ [';']))))))))
  have hlines : sparseModule.toList.splitOn '\n' = "MODULE Sparse".toList ::
      ["! VAR num a:=1;".toList, localLine, " \t".toList, plainLine, "ENDMODULE".toList] := by
    decide
  have hname : LineNames "MODULE Sparse".toList "Sparse" :=
    ⟨[], [' '], [], ⟨rfl, by simp, by decide, List.all_eq_true.mp (by decide), by decide,
      List.all_eq_true.mp (by decide)⟩, by simp⟩
  have hlocal : LineDeclares localLine ⟨"num", "b", String.ofList (trim " [ 2, 3 ] ".toList)⟩ :=
    .intro (by decide) (.keyword (by decide) (by decide) (by decide)) (by decide) (by decide)
      (by decide) (by decide) (by decide) (by decide) (by decide) (by decide)
      (.value (List.all_eq_true.mp (by decide))) (by decide)
  have hplain : LineDeclares plainLine ⟨"bool", "c", String.ofList (trim [])⟩ :=
    .intro (by decide) .none (by decide) (by decide) (by decide) (by decide) (by decide) (by decide)
      (by decide) (by decide) .none (by decide)
  have hfound : List.Forall₂ LineHolds
      ["! VAR num a:=1;".toList, localLine, " \t".toList, plainLine, "ENDMODULE".toList] _ :=
    .cons (.other (by decide)) (.cons (.item hlocal) (.cons (.other (by decide))
      (.cons (.item hplain) (.cons (.other (by decide)) .nil))))
  have hscan := scan_of_lines hlines hname hfound ⟨"ENDMODULE".toList, by simp, by decide⟩
  rw [hscan]
  decide

end RobotCell
