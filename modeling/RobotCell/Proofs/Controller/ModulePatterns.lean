import Mathlib.Data.List.Basic
import RobotCell.Proofs.Controller.ModuleScan
import RobotCell.Proofs.Text.Pattern

/-!
# RobotCell.Proofs.Controller.ModulePatterns

The scan of a module finds what two patterns capture.

A module is named by the first match of `headerPattern`, and its items are the matches of
`declarationPattern`, one after another:

```
(?m)^\s*MODULE\s+(\w+)
(?m)^\s*(?:(?:LOCAL|TASK)\s+)?(?:CONST|VAR|PERS)\s+(\w+)\s+(\w+)\s*(?::=\s*(.*?))?;\s*$
```

Where the scan tries one way only, no other would help: what follows a word or blanks cannot begin
with one of their characters, and no text starts with two of the keywords (`Apart`).  There are two
exceptions.  Fewer blanks before a value leave more to the value, but it ends at the same semicolon
(`keeps_value?`).  And the blanks before a line end are given back up to the last line end in them
(`leadsTo_lineEnd`), where the search goes on below the same line (`scans_below`).
-/

namespace RobotCell.ModuleScan

open Pattern

/-! ## The patterns -/

/-- A line that starts a module; the first group is its name. -/
def headerPattern : Pattern :=
  .sequence [.lineStart, .many isBlank, .literal "MODULE", .oneOrMore isBlank,
    .group 1 (.oneOrMore isWord)]

/-- Lines that declare an item; the groups are its type, its name and its value. -/
def declarationPattern : Pattern :=
  .sequence [.lineStart, .many isBlank,
    .optional (.sequence [.oneOf "LOCAL" ["TASK"], .oneOrMore isBlank]),
    .oneOf "CONST" ["VAR", "PERS"], .oneOrMore isBlank, .group 1 (.oneOrMore isWord),
    .oneOrMore isBlank, .group 2 (.oneOrMore isWord), .many isBlank,
    .optional (.sequence [.literal ":=", .many isBlank, .group 3 (.few (· != '\n'))]),
    .literal ";", .many isBlank, .lineEnd]

/-- The item that the groups of a match give. -/
def Declared.ofGroups (groups : List (Nat × List Char)) : Declared where
  dataType := String.ofList ((groups.lookup 1).getD [])
  name := String.ofList ((groups.lookup 2).getD [])
  value := String.ofList (trim ((groups.lookup 3).getD []))

/-- The name that the groups of a match give. -/
def nameOf (m : Matched) : String := String.ofList ((m.groups.lookup 1).getD [])

/-! ## Keywords -/

/-- The text behind a keyword is what is left without it. -/
theorem afterKeyword?_eq_some_iff {keyword : String} {cs rest : List Char} :
    afterKeyword? keyword cs = some rest ↔ keyword.toList ++ rest = cs :=
  List.isPrefixOf?_eq_some_iff_append_eq

theorem afterKeyword?_eq_none_iff {keyword : String} {cs : List Char} :
    afterKeyword? keyword cs = none ↔ ∀ rest, keyword.toList ++ rest ≠ cs := by
  rw [Option.eq_none_iff_forall_ne_some]
  exact forall_congr' fun rest => not_congr afterKeyword?_eq_some_iff

/-- Two keywords of which no text can start with both. -/
def Apart (w w' : String) : Prop := ¬ w.toList <+: w'.toList ∧ ¬ w'.toList <+: w.toList

instance (w w' : String) : Decidable (Apart w w') :=
  inferInstanceAs (Decidable (¬ w.toList <+: w'.toList ∧ ¬ w'.toList <+: w.toList))

/-- What starts with a keyword starts with none that is apart from it. -/
theorem Apart.afterKeyword?_eq_none {w w' : String} (h : Apart w w') (rest : List Char) :
    afterKeyword? w' (w.toList ++ rest) = none := by
  refine afterKeyword?_eq_none_iff.mpr fun rest' heq => ?_
  have hfirst : w.toList <+: w.toList ++ rest := List.prefix_append _ _
  have hsecond : w'.toList <+: w.toList ++ rest := ⟨rest', heq⟩
  have hcompare := List.prefix_or_prefix_of_prefix hfirst hsecond
  exact hcompare.elim h.1 h.2

/-- Keywords are tried in their order. -/
theorem afterKeywords?_cons (w : String) (ws : List String) (cs : List Char) :
    afterKeywords? (w :: ws) cs = (afterKeyword? w cs).or (afterKeywords? ws cs) := by
  rw [afterKeywords?]
  cases afterKeyword? w cs <;> rfl

@[simp] theorem afterKeywords?_singleton (w : String) (cs : List Char) :
    afterKeywords? [w] cs = afterKeyword? w cs := by
  rw [afterKeywords?_cons]
  exact Option.or_none

/-- A text behind one of several keywords is behind one of them. -/
theorem exists_of_afterKeywords? {keywords : List String} {cs rest : List Char}
    (h : afterKeywords? keywords cs = some rest) : ∃ w ∈ keywords, w.toList ++ rest = cs := by
  induction keywords with
  | nil => cases h
  | cons w ws ih =>
      rw [afterKeywords?_cons] at h
      rcases Option.or_eq_some_iff.mp h with hfirst | ⟨-, hlater⟩
      · exact ⟨w, List.mem_cons_self, afterKeyword?_eq_some_iff.mp hfirst⟩
      · obtain ⟨w', hmem, heq⟩ := ih hlater
        exact ⟨w', List.mem_cons_of_mem w hmem, heq⟩

/-- A text that starts with a keyword starts with none of others that are apart from it. -/
theorem afterKeywords?_eq_none {keywords : List String} {w : String}
    (h : ∀ w' ∈ keywords, Apart w w') (rest : List Char) :
    afterKeywords? keywords (w.toList ++ rest) = none := by
  induction keywords with
  | nil => rfl
  | cons w' ws ih =>
      rw [List.forall_mem_cons] at h
      rw [afterKeywords?_cons, h.1.afterKeyword?_eq_none, ih h.2, Option.or_none]

/-- No blank starts a keyword. -/
theorem afterKeywords?_cons_of_isBlank (keywords : List String) {c : Char}
    (h : ∀ w ∈ keywords, w.toList.head?.any fun d => !isBlank d) (hc : isBlank c = true)
    (cs : List Char) : afterKeywords? keywords (c :: cs) = none := by
  refine Option.eq_none_iff_forall_ne_some.mpr fun rest hrest => ?_
  obtain ⟨w, hw, heq⟩ := exists_of_afterKeywords? hrest
  have hhead := h w hw
  cases hchars : w.toList with
  | nil => simp [hchars] at hhead
  | cons d ds =>
      rw [hchars] at hhead heq
      obtain ⟨rfl, -⟩ := List.cons.inj heq
      simp [hc] at hhead

variable {α : Type} {next : Matched → Option α} {groups : List (Nat × List Char)}
  {result : List Char → Option α}

/-- After one of several keywords no other is worth a try. -/
theorem leadsTo_oneOf (h : LeadsTo next groups result) (keyword : String) (keywords : List String)
    (hapart : (keyword :: keywords).Pairwise Apart) :
    LeadsTo ((oneOf keyword keywords).run next) groups fun cs =>
      (afterKeywords? (keyword :: keywords) cs).bind result := by
  induction keywords generalizing keyword with
  | nil =>
      intro last cs
      refine (h.literal keyword last cs).trans ?_
      dsimp only
      rw [afterKeywords?_singleton]
      rfl
  | cons other words ih =>
      rw [List.pairwise_cons] at hapart
      intro last cs
      refine ((h.literal keyword).either (ih other hapart.2) last cs).trans ?_
      change ((afterKeyword? keyword cs).bind result).or _ = _
      dsimp only
      rw [afterKeywords?_cons keyword]
      cases hfirst : afterKeyword? keyword cs with
      | none => rfl
      | some rest =>
          obtain rfl := afterKeyword?_eq_some_iff.mp hfirst
          rw [afterKeywords?_eq_none hapart.1]
          exact Option.or_none

/-- A scope is followed by a storage class, which the text cannot start with itself. -/
theorem bind_afterStorage? (f : List Char → Option α) (cs : List Char) :
    (afterStorage? cs).bind f =
      ((afterKeywords? ["LOCAL", "TASK"] cs).bind fun rest => (afterBlanks? rest).bind fun rest =>
          (afterKeywords? ["CONST", "VAR", "PERS"] rest).bind f).or
        ((afterKeywords? ["CONST", "VAR", "PERS"] cs).bind f) := by
  rw [afterStorage?]
  cases hscope : afterKeywords? ["LOCAL", "TASK"] cs with
  | none => rfl
  | some rest =>
      obtain ⟨w, hw, rfl⟩ := exists_of_afterKeywords? hscope
      have hapart : ∀ w ∈ ["LOCAL", "TASK"], ∀ w' ∈ ["CONST", "VAR", "PERS"], Apart w w' := by
        decide
      rw [afterKeywords?_eq_none (hapart w hw), Option.bind_none, Option.or_none, Option.bind_some,
        Option.bind_some]
      cases afterBlanks? rest <;> rfl

/-! ## Ends of lines -/

/-- The line end of a text is the last one in the blanks that it starts with. -/
theorem afterLineEnd?_cons (c : Char) (cs : List Char) :
    afterLineEnd? (c :: cs) =
      if isBlank c then (afterLineEnd? cs).or (if c = '\n' then some (trimStart cs) else none)
      else none := by
  by_cases hc : isBlank c = true
  · have htrim : trimStart (c :: cs) = trimStart cs := List.dropWhile_cons_of_pos hc
    simp only [afterLineEnd?, htrim, List.takeWhile_cons_of_pos hc, if_pos hc]
    by_cases hline : c = '\n'
    · subst hline
      simp only [List.contains_cons, beq_self_eq_true, Bool.true_or, Bool.or_true, if_true]
      split <;> rfl
    · simp [hline, Ne.symm hline]
  · have htrim : trimStart (c :: cs) = c :: cs := List.dropWhile_cons_of_neg hc
    simp [afterLineEnd?, htrim, List.takeWhile_cons_of_neg hc, hc]

/-- What is made of the groups of a match and of the text below it. -/
def readBelow (f : List (Nat × List Char) → List Char → α) (m : Matched) : Option α :=
  some (f m.groups (trimStart m.rest))

section
variable (f : List (Nat × List Char) → List Char → α) (groups : List (Nat × List Char))

/-- The blanks before a line end are given back up to the last line end in them, and what is below
it is the same as below all of them. -/
theorem leadsTo_lineEnd :
    LeadsTo ((sequence [.many isBlank, .lineEnd]).run (readBelow f)) groups fun cs =>
      (afterLineEnd? cs).map (f groups) := by
  have hread : LeadsTo (readBelow f) groups fun cs => some (f groups (trimStart cs)) :=
    fun _ _ => rfl
  have hlongest (cs : List Char) :
      longest isBlank (fun cs => if cs.head?.all (· == '\n') then some (f groups (trimStart cs))
        else none) cs = (afterLineEnd? cs).map (f groups) := by
    induction cs with
    | nil => rfl
    | cons c cs ih =>
        rw [longest, ih, afterLineEnd?_cons, List.head?_cons, Option.all_some]
        by_cases hc : isBlank c = true
        · have htrim : trimStart (c :: cs) = trimStart cs := List.dropWhile_cons_of_pos hc
          rw [if_pos hc, if_pos hc, Option.map_or, htrim]
          by_cases hline : c = '\n' <;> simp [hline]
        · have hline : c ≠ '\n' := fun h => hc (h ▸ rfl)
          simp [hc, hline]
  exact fun last cs => (hread.lineEnd.longest isBlank last cs).trans (hlongest cs)

/-- A declaration ends at a semicolon before a line end. -/
theorem leadsTo_semicolon :
    LeadsTo ((sequence [.literal ";", .many isBlank, .lineEnd]).run (readBelow f)) groups fun cs =>
      (afterKeyword? ";" cs).bind fun rest => (afterLineEnd? rest).map (f groups) :=
  (leadsTo_lineEnd f groups).literal ";"

theorem afterKeyword?_semicolon (c : Char) (cs : List Char) :
    afterKeyword? ";" (c :: cs) = if c = ';' then some cs else none := by
  by_cases hc : c = ';'
  · subst hc
    rfl
  · simp [afterKeyword?, List.isPrefixOf?, hc, Ne.symm hc]

/-! ## Values -/

/-- A captured value ends at the first semicolon before a line end. -/
theorem leadsTo_value :
    LeadsTo ((Pattern.group 3 (.few (· != '\n'))).run
        ((sequence [.literal ";", .many isBlank, .lineEnd]).run (readBelow f)))
      groups fun cs => (value? cs).map fun r => f ((3, r.1) :: groups) r.2 := by
  have hshortest (taken cs : List Char) :
      shortest (· != '\n') (fun rest => (afterKeyword? ";" rest).bind fun below =>
          (afterLineEnd? below).map
            (f ((3, (taken ++ cs).take ((taken ++ cs).length - rest.length)) :: groups))) cs =
        (value? cs).map fun r => f ((3, taken ++ r.1) :: groups) r.2 := by
    induction cs generalizing taken with
    | nil => rfl
    | cons c cs ih =>
        have hmore := ih (taken ++ [c])
        rw [List.append_assoc, List.singleton_append] at hmore
        have htaken : (taken ++ c :: cs).take ((taken ++ c :: cs).length - (c :: cs).length) =
            taken := by simp
        rw [shortest, hmore, afterKeyword?_semicolon, htaken, value?]
        by_cases hline : c = '\n'
        · subst hline
          rfl
        · by_cases hend : c = ';'
          · subst hend
            cases hafter : afterLineEnd? cs <;> simp [hafter, Function.comp_def]
          · simp [hline, hend, Function.comp_def]
  intro last cs
  have hrun := (LeadsTo.capture (fun taken => leadsTo_semicolon f ((3, taken) :: groups)) cs).shortest
    (· != '\n') last cs
  exact hrun.trans (hshortest [] cs)

end

/-- A value that is not found behind blanks is not found from the blanks on. -/
theorem value?_eq_none_of_trimStart {cs : List Char} (h : value? (trimStart cs) = none) :
    value? cs = none := by
  induction cs with
  | nil => exact h
  | cons c cs ih =>
      by_cases hc : isBlank c = true
      · have hend : c ≠ ';' := fun heq => absurd hc (by rw [heq]; decide)
        rw [trimStart, List.dropWhile_cons_of_pos hc] at h
        simp [value?, hend, ih h]
      · rwa [trimStart_of_head (Bool.eq_false_iff.mpr hc)] at h

/-- All the blanks before a value are passed over. -/
theorem keeps_value? : Keeps isBlank value? := by
  intro c cs _
  cases hvalue : value? ((c :: cs).dropWhile isBlank) with
  | none => exact .inl (value?_eq_none_of_trimStart hvalue)
  | some r => exact .inr rfl

/-! ## Declarations -/

/-- The item of a match with the text below it. -/
def readDeclared : Matched → Option (Declared × List Char) :=
  readBelow fun groups below => (Declared.ofGroups groups, below)

/-- An initial value or none is read by the way it begins. -/
theorem initializer?_eq (cs : List Char) :
    initializer? cs =
      ((afterKeyword? ":=" cs).bind fun rest => value? (trimStart rest)).or
        ((afterKeyword? ";" cs).bind fun rest => (afterLineEnd? rest).map fun below =>
          ([], below)) := by
  unfold initializer?
  split
  · next rest => exact Option.or_none.symm
  · rfl
  · next hassign hend =>
      have hfirst : afterKeyword? ":=" cs = none := by
        refine Option.eq_none_iff_forall_ne_some.mpr fun rest h => ?_
        exact hassign rest (afterKeyword?_eq_some_iff.mp h).symm
      have hsecond : afterKeyword? ";" cs = none := by
        refine Option.eq_none_iff_forall_ne_some.mpr fun rest h => ?_
        exact hend rest (afterKeyword?_eq_some_iff.mp h).symm
      rw [hfirst, hsecond]
      rfl

/-- The last part of a declaration is its initial value and a semicolon. -/
theorem leadsTo_initializer (dataType name : List Char) :
    LeadsTo ((sequence [.optional (.sequence [.literal ":=", .many isBlank,
          .group 3 (.few (· != '\n'))]), .literal ";", .many isBlank, .lineEnd]).run readDeclared)
      [(2, name), (1, dataType)] fun cs => (initializer? cs).map fun r =>
        (⟨String.ofList dataType, String.ofList name, String.ofList (trim r.1)⟩, r.2) := by
  have hvalue := ((leadsTo_value (fun groups below => (Declared.ofGroups groups, below))
    [(2, name), (1, dataType)]).many (keeps_value?.map _)).literal ":="
  have hnone := leadsTo_semicolon (fun groups below => (Declared.ofGroups groups, below))
    [(2, name), (1, dataType)]
  intro last cs
  refine (LeadsTo.either (p := .sequence [.literal ":=", .many isBlank,
          .group 3 (.few (· != '\n'))]) (q := .empty) hvalue hnone last cs).trans ?_
  simp only [initializer?_eq, Option.map_or, Option.map_bind, Function.comp_def, Option.map_map]
  rfl

/-- Blanks are passed over together. -/
theorem afterBlanks?_eq (cs : List Char) :
    afterBlanks? cs =
      if (cs.takeWhile isBlank).isEmpty then none else some (cs.dropWhile isBlank) := by
  cases cs with
  | nil => rfl
  | cons c cs =>
      by_cases hc : isBlank c = true
      · rw [afterBlanks?, if_pos hc, List.takeWhile_cons_of_pos hc, List.dropWhile_cons_of_pos hc]
        rfl
      · rw [afterBlanks?, if_neg hc, List.takeWhile_cons_of_neg hc]
        rfl

/-- No blank is a character of a word. -/
theorem isBlank_of_isWord {c : Char} (h : isWord c = true) : isBlank c = false := by
  refine Bool.eq_false_iff.mpr fun hblank => ?_
  cases (not_isWord_of_isBlank hblank).symm.trans h

/-- Blanks do not begin with a character of a word. -/
theorem afterBlanks?_cons_of_isWord {c : Char} (h : isWord c = true) (cs : List Char) :
    afterBlanks? (c :: cs) = none := by
  rw [afterBlanks?, isBlank_of_isWord h]
  rfl

/-- A word does not begin with a blank. -/
theorem word?_cons_of_isBlank {c : Char} (h : isBlank c = true) (cs : List Char) :
    word? (c :: cs) = none := by
  rw [word?, List.takeWhile_cons_of_neg (by rw [not_isWord_of_isBlank h]; decide)]
  rfl

/-- Blanks that may be missing, before a part that begins with none. -/
theorem leadsTo_trimStart (h : LeadsTo next groups result)
    (hnone : ∀ c cs, isBlank c = true → result (c :: cs) = none) :
    LeadsTo ((Pattern.many isBlank).run next) groups fun cs => result (trimStart cs) :=
  h.many (.of_none hnone)

/-- The blanks before a part that begins with none. -/
theorem leadsTo_blanks (h : LeadsTo next groups result)
    (hnone : ∀ c cs, isBlank c = true → result (c :: cs) = none) :
    LeadsTo ((Pattern.oneOrMore isBlank).run next) groups fun cs =>
      (afterBlanks? cs).bind result := by
  intro last cs
  refine (h.oneOrMore (.of_none hnone) last cs).trans ?_
  dsimp only
  rw [afterBlanks?_eq]
  split <;> rfl

/-- A captured word before a part that begins with no character of a word. -/
theorem leadsTo_word {number : Nat} {result : List Char → List Char → Option α}
    (h : ∀ word, LeadsTo next ((number, word) :: groups) (result word))
    (hnone : ∀ word c cs, isWord c = true → result word (c :: cs) = none) :
    LeadsTo ((Pattern.group number (.oneOrMore isWord)).run next) groups fun cs =>
      (word? cs).bind fun r => result r.1 r.2 := by
  intro last cs
  refine (LeadsTo.group h (fun word _ c cs hc => .inl (hnone word c cs hc)) last cs).trans ?_
  dsimp only
  rw [word?]
  split <;> rfl

/-- An initial value does not begin with a blank or a character of a word. -/
theorem initializer?_eq_none {c : Char} (h : isBlank c = true ∨ isWord c = true)
    (cs : List Char) : initializer? (c :: cs) = none := by
  have hassign : c ≠ ':' := by
    rintro rfl
    exact absurd h (by decide)
  have hend : c ≠ ';' := by
    rintro rfl
    exact absurd h (by decide)
  unfold initializer?
  split
  · next heq => exact absurd (List.cons.inj heq).1 hassign
  · next heq => exact absurd (List.cons.inj heq).1 hend
  · rfl

/-- The part of a declaration behind the name. -/
theorem leadsTo_afterName (dataType name : List Char) :
    LeadsTo ((sequence [.many isBlank, .optional (.sequence [.literal ":=", .many isBlank,
          .group 3 (.few (· != '\n'))]), .literal ";", .many isBlank, .lineEnd]).run readDeclared)
      [(2, name), (1, dataType)] fun cs => (initializer? (trimStart cs)).map fun r =>
        (⟨String.ofList dataType, String.ofList name, String.ofList (trim r.1)⟩, r.2) := by
  refine leadsTo_trimStart (leadsTo_initializer dataType name) fun c cs hc => ?_
  rw [initializer?_eq_none (.inl hc), Option.map_none]

/-- **The pattern of a declaration matches what is read as one**, at the start of a line. -/
theorem run_declarationPattern (last : Option Char) (cs : List Char) :
    declarationPattern.run readDeclared ⟨last, cs, []⟩ =
      if last.all (· == '\n') then declaration? cs else none := by
  have htype (dataType : List Char) :=
    leadsTo_blanks (leadsTo_word (leadsTo_afterName dataType) fun name c cs hc => by
      have hblank : isBlank c = false := isBlank_of_isWord hc
      rw [trimStart_of_head hblank, initializer?_eq_none (.inr hc), Option.map_none])
      fun c cs hc => by simp only [word?_cons_of_isBlank hc, Option.bind_none]
  have hdata := leadsTo_blanks (leadsTo_word htype fun _ c cs hc => by
      simp only [afterBlanks?_cons_of_isWord hc, Option.bind_none])
      fun c cs hc => by simp only [word?_cons_of_isBlank hc, Option.bind_none]
  have hstorage := leadsTo_oneOf hdata "CONST" ["VAR", "PERS"] (by decide)
  have hscope := leadsTo_oneOf (leadsTo_blanks hstorage fun c cs hc => by
      simp only [afterKeywords?_cons_of_isBlank ["CONST", "VAR", "PERS"] (by decide) hc,
        Option.bind_none])
      "LOCAL" ["TASK"] (by decide)
  have hoptional := hscope.either (p := .sequence [.oneOf "LOCAL" ["TASK"], .oneOrMore isBlank])
    (q := .empty) hstorage
  have hall := leadsTo_trimStart hoptional fun c cs hc => by
    simp only [afterKeywords?_cons_of_isBlank ["LOCAL", "TASK"] (by decide) hc,
      afterKeywords?_cons_of_isBlank ["CONST", "VAR", "PERS"] (by decide) hc,
      Option.bind_none, Option.or_none]
  change (if last.all (· == '\n') then _ else none) = _
  refine congrArg (fun r => if last.all (· == '\n') then r else none) ((hall last cs).trans ?_)
  dsimp only
  rw [← bind_afterStorage?]
  simp only [Option.map_eq_bind]
  rfl

/-- The pattern of a header matches what is read as one, at the start of a line. -/
theorem run_headerPattern (last : Option Char) (cs : List Char) :
    headerPattern.run (fun m => some (nameOf m)) ⟨last, cs, []⟩ =
      if last.all (· == '\n') then headerName? cs else none := by
  have hname : LeadsTo ((Pattern.group 1 (.oneOrMore isWord)).run fun m => some (nameOf m)) []
      fun cs => (word? cs).map fun r => String.ofList r.1 := by
    intro last cs
    have hread (word : List Char) : LeadsTo (fun m => some (nameOf m)) [(1, word)]
        fun _ => some (String.ofList word) := fun _ _ => rfl
    refine (LeadsTo.group hread (fun _ _ _ _ _ => .inr rfl) last cs).trans ?_
    dsimp only
    rw [word?]
    split <;> rfl
  have hgap := leadsTo_blanks hname fun c cs hc => by
    simp only [word?_cons_of_isBlank hc, Option.map_none]
  have hall := leadsTo_trimStart (leadsTo_oneOf hgap "MODULE" [] (by decide)) fun c cs hc => by
    simp only [afterKeywords?_cons_of_isBlank ["MODULE"] (by decide) hc, Option.bind_none]
  change (if last.all (· == '\n') then _ else none) = _
  refine congrArg (fun r => if last.all (· == '\n') then r else none) ((hall last cs).trans ?_)
  simp only [afterKeywords?_singleton, Option.map_eq_bind]
  rfl

/-! ## Searches -/

/-- A pattern that begins with the start of a line is searched for line by line. -/
theorem find?_of_run_eq_none {ps : List Pattern} {last : Option Char} {cs : List Char}
    (h : (sequence (.lineStart :: ps)).run some ⟨last, cs, []⟩ = none) :
    (sequence (.lineStart :: ps)).find? last cs =
      (nextLine? cs).bind ((sequence (.lineStart :: ps)).find? (some '\n')) := by
  induction cs generalizing last with
  | nil => exact h
  | cons c cs ih =>
      rw [find?, h, Option.none_or, nextLine?_cons]
      by_cases hline : c = '\n'
      · subst hline
        rfl
      · have hstart : (⟨some c, cs, []⟩ : Matched).atLineStart = false := by
          simpa [Matched.atLineStart] using hline
        rw [if_neg hline]
        exact ih (run_eq_none_of_atLineStart ps hstart)

/-- At the start of a line the pattern of a header has the match that is read as one. -/
theorem map_run_headerPattern {last : Option Char} (hlast : last.all (· == '\n') = true)
    (cs : List Char) :
    (headerPattern.run some ⟨last, cs, []⟩).map nameOf = headerName? cs := by
  rw [run_map]
  exact (run_headerPattern last cs).trans (if_pos hlast)

/-- At the start of a line the pattern of a declaration has the match that is read as one. -/
theorem map_run_declarationPattern {last : Option Char} (hlast : last.all (· == '\n') = true)
    (cs : List Char) :
    (declarationPattern.run some ⟨last, cs, []⟩).map
      (fun m => (Declared.ofGroups m.groups, trimStart m.rest)) = declaration? cs := by
  rw [run_map]
  exact (run_declarationPattern last cs).trans (if_pos hlast)

/-- **The first header is the first match of its pattern.** -/
theorem moduleName?_eq {last : Option Char} (hlast : last.all (· == '\n') = true) {bound : Nat}
    {cs : List Char} (hbound : cs.length < bound) :
    moduleName? bound cs = (headerPattern.find? last cs).map nameOf := by
  induction bound generalizing last cs with
  | zero => omega
  | succ bound ih =>
      have hhere := map_run_headerPattern hlast cs
      rw [moduleName?, ← hhere]
      cases hrun : headerPattern.run some ⟨last, cs, []⟩ with
      | some m => rw [find?_of_run hrun]; rfl
      | none =>
          have hfind : headerPattern.find? last cs =
              (nextLine? cs).bind (headerPattern.find? (some '\n')) := find?_of_run_eq_none hrun
          rw [hfind]
          cases hnext : nextLine? cs with
          | none => rfl
          | some rest =>
              have := length_of_nextLine? hnext
              exact ih rfl (by omega)

/-- A declaration takes characters. -/
theorem length_of_declaration? {cs below : List Char} {d : Declared}
    (h : declaration? cs = some (d, below)) : below.length < cs.length := by
  have hmap := map_run_declarationPattern (rfl : none.all (· == '\n') = true) cs
  obtain ⟨m, hrun, heq⟩ := Option.map_eq_some_iff.mp (hmap.trans h)
  obtain ⟨m', hle, hsome⟩ := exists_of_run hrun
  cases hsome
  cases heq
  have hwidth : 0 < declarationPattern.width := by decide
  have hlt : m.rest.length < cs.length := Nat.lt_of_lt_of_le (Nat.lt_add_of_pos_right hwidth) hle
  have htrim : (trimStart m.rest).length ≤ m.rest.length := (List.dropWhile_sublist _).length_le
  omega

/-- A blank above declarations may be left out. -/
theorem Scans.of_cons_blank {c : Char} {cs : List Char} {ds : List Declared}
    (h : Scans (c :: cs) ds) (hc : isBlank c = true) : Scans cs ds := by
  have hdecl := @declaration?_cons_of_blank c cs hc
  have hnext := nextLine?_cons c cs
  cases h with
  | found hfound _ rest =>
      have hfound' := hdecl.symm.trans hfound
      exact .found hfound' (length_of_declaration? hfound') rest
  | skip hnone hmore more =>
      rw [hmore] at hnext
      split at hnext
      · cases hnext
        exact more
      · exact .skip (hdecl.symm.trans hnone) hnext.symm more
  | done hnone hend =>
      rw [hend] at hnext
      split at hnext
      · cases hnext
      · exact .done (hdecl.symm.trans hnone) hnext.symm

/-- All the blanks above declarations may be left out. -/
theorem Scans.trimStart {cs : List Char} {ds : List Declared} (h : Scans cs ds) :
    Scans (trimStart cs) ds := by
  induction cs with
  | nil => exact h
  | cons c cs ih =>
      by_cases hc : isBlank c = true
      · have htrim : RobotCell.trimStart (c :: cs) = RobotCell.trimStart cs :=
          List.dropWhile_cons_of_pos hc
        rw [htrim]
        exact ih (h.of_cons_blank hc)
      · rwa [trimStart_of_head (Bool.eq_false_iff.mpr hc)]

/-- The items of the matches from a place on. -/
def declared (last : Option Char) (cs : List Char) : List Declared :=
  (declarationPattern.findAll last cs).map fun m => Declared.ofGroups m.groups

/-- Behind a match the search goes on below the line it ends on. -/
theorem scans_below {m : Matched} (hend : m.atLineEnd = true)
    (h : ∀ last cs, cs.length ≤ m.rest.length → last.all (· == '\n') = true →
      Scans cs (declared last cs)) :
    Scans (trimStart m.rest) (declared m.last m.rest) := by
  have hwidth : 0 < declarationPattern.width := by decide
  cases hrest : m.rest with
  | nil =>
      have hnone : declarationPattern.find? m.last [] = none := run_nil_of_width hwidth m.last []
      rw [declared, findAll_of_find?_eq_none hnone]
      exact .done rfl rfl
  | cons c more =>
      obtain rfl : c = '\n' := by simpa [Matched.atLineEnd, hrest] using hend
      rw [hrest] at h
      cases hagain : m.last.all (· == '\n') with
      | true => exact (h m.last ('\n' :: more) (Nat.le_refl _) hagain).trimStart
      | false =>
          have hrun : declarationPattern.run some ⟨m.last, '\n' :: more, []⟩ = none :=
            run_eq_none_of_atLineStart _ hagain
          have hfind : declarationPattern.find? m.last ('\n' :: more) =
              declarationPattern.find? (some '\n') more := find?_of_run_eq_none hrun
          rw [declared, findAll_congr hwidth hfind]
          exact (h (some '\n') more (Nat.le_succ _) rfl).trimStart

/-- **The declarations are the matches of their pattern**, one after another. -/
theorem scans_declared {last : Option Char} (hlast : last.all (· == '\n') = true)
    (cs : List Char) : Scans cs (declared last cs) := by
  have hwidth : 0 < declarationPattern.width := by decide
  -- a search goes on behind a match, and below a line without one
  induction hlength : cs.length using Nat.strongRecOn generalizing last cs with
  | _ length ih =>
    subst hlength
    have hhere := map_run_declarationPattern hlast cs
    cases hrun : declarationPattern.run some ⟨last, cs, []⟩ with
    | none =>
        have hfind : declarationPattern.find? last cs =
            (nextLine? cs).bind (declarationPattern.find? (some '\n')) :=
          find?_of_run_eq_none hrun
        rw [hrun] at hhere
        cases hnext : nextLine? cs with
        | none =>
            rw [hnext] at hfind
            rw [declared, findAll_of_find?_eq_none hfind]
            exact .done hhere.symm hnext
        | some rest =>
            rw [hnext] at hfind
            rw [declared, findAll_congr hwidth hfind]
            exact .skip hhere.symm hnext (ih _ (length_of_nextLine? hnext) rfl rest rfl)
    | some m =>
        have hfind := find?_of_run hrun
        have hlt : m.rest.length < cs.length := by
          have := length_of_find? hfind
          omega
        rw [hrun] at hhere
        rw [declared, findAll_of_find? hwidth hfind, List.map_cons]
        refine .found hhere.symm (length_of_declaration? hhere.symm) ?_
        refine scans_below (atLineEnd_of_run rfl hrun) fun last' cs' hle hlast' => ?_
        exact ih cs'.length (by omega) hlast' cs' rfl

end RobotCell.ModuleScan

namespace RobotCell

open ModuleScan in
/-- **A module is scanned by the two patterns**: it has the name in the first match of the one, and
the items in the matches of the other. -/
theorem LoadedModule.scan_eq_matches (text : String) :
    LoadedModule.scan text =
      match headerPattern.find? none text.toList with
      | none => .error .noHeader
      | some header =>
        if contains "ENDMODULE".toList text.toList then
          .ok ⟨nameOf header, (declared none text.toList).map fun d =>
            ⟨nameOf header, d.name, d.dataType, d.value⟩⟩
        else .error (.notTerminated (nameOf header)) := by
  have hname : moduleName? (text.toList.length + 1) text.toList =
      (headerPattern.find? none text.toList).map nameOf := moduleName?_eq rfl (Nat.lt_succ_self _)
  have hitems : declarations (text.toList.length + 1) text.toList = declared none text.toList :=
    (scans_declared rfl text.toList).declarations_eq (Nat.lt_succ_self _)
  simp only [LoadedModule.scan, hname, hitems]
  cases headerPattern.find? none text.toList <;> rfl

end RobotCell
