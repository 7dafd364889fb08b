import RobotCell.Proofs.Motion.ReadBack

/-!
# RobotCell.Proofs.Motion.Grammar

The texts that are literals, and the reader that accepts exactly these.

The grammar relates a text to a tree and to the rest of the text that comes after it, so that a
scalar can be said to run up to a character that ends it:

* `Trimmed` and `Body`: what the blanks and the semicolon around a value are;
* `ScalarText`: the scalars, once they are trimmed;
* `DerivesValue` and `DerivesItems`: values and the items of lists, blanks included.

Each token is read as the grammar has it (`readString_eq_ok_iff`, `readScalar_eq_ok_iff`), and the
two main inductions follow the reader (`derives_of_readValue`) and the grammar
(`DerivesValue.readValue_eq_ok`).
-/

namespace RobotCell

/-! ## Spans -/

/-- A text splits in one way into a run of a class and a rest that does not start with it. -/
theorem takeWhile_dropWhile_eq_iff {α : Type} {p : α → Bool} {as run rest : List α} :
    as.takeWhile p = run ∧ as.dropWhile p = rest ↔
      as = run ++ rest ∧ (∀ a ∈ run, p a = true) ∧ ∀ a ∈ rest.head?, p a = false := by
  constructor
  · rintro ⟨rfl, rfl⟩
    refine ⟨List.takeWhile_append_dropWhile.symm, List.all_eq_true.mp List.all_takeWhile, ?_⟩
    intro a ha
    have hhead := List.head?_dropWhile_not p as
    rw [Option.mem_def.mp ha] at hhead
    simpa using hhead
  · rintro ⟨rfl, hrun, hrest⟩
    rw [List.takeWhile_append_of_pos hrun, List.dropWhile_append_of_pos hrun]
    cases rest with
    | nil => simp
    | cons a rest => simp [hrest a rfl]

/-! ## Blanks -/

/-- Nothing but blanks that separate tokens comes before the rest. -/
def Blanks (cs rest : List Char) : Prop :=
  ∃ blanks, cs = blanks ++ rest ∧ ∀ c ∈ blanks, isAsciiBlank c = true

/-- Passing over blanks makes a text no longer. -/
theorem Blanks.length_le {cs rest : List Char} (h : Blanks cs rest) :
    rest.length ≤ cs.length := by
  obtain ⟨blanks, rfl, -⟩ := h
  simp

/-- The blanks that are skipped are blanks. -/
theorem blanks_skipBlanks (cs : List Char) : Blanks cs (skipBlanks cs) :=
  ⟨cs.takeWhile isAsciiBlank, List.takeWhile_append_dropWhile.symm,
    List.all_eq_true.mp List.all_takeWhile⟩

/-- The blanks before something else are those that are skipped. -/
theorem Blanks.skipBlanks_eq {cs rest : List Char} (h : Blanks cs rest)
    (hrest : ∀ c ∈ rest.head?, isAsciiBlank c = false) : skipBlanks cs = rest := by
  obtain ⟨blanks, hcs, hblanks⟩ := h
  exact (takeWhile_dropWhile_eq_iff.mpr ⟨hcs, hblanks, hrest⟩).2

/-- All the blanks before something else are skipped. -/
theorem Blanks.skipBlanks_cons {cs rest : List Char} {c : Char} (h : Blanks cs (c :: rest))
    (hc : isAsciiBlank c = false) : skipBlanks cs = c :: rest :=
  h.skipBlanks_eq (by simpa using hc)

/-- Only blanks are left just when skipping them leaves nothing. -/
theorem blanks_nil_iff {cs : List Char} : Blanks cs [] ↔ skipBlanks cs = [] := by
  constructor
  · exact fun h => h.skipBlanks_eq (by simp)
  · intro h
    exact h ▸ blanks_skipBlanks cs

/-- What is left begins with no blank. -/
theorem head_skipBlanks (cs : List Char) : ∀ c ∈ (skipBlanks cs).head?, isAsciiBlank c = false :=
  (takeWhile_dropWhile_eq_iff.mp ⟨rfl, rfl⟩).2.2

theorem skipBlanks_skipBlanks (cs : List Char) : skipBlanks (skipBlanks cs) = skipBlanks cs :=
  Blanks.skipBlanks_eq ⟨[], rfl, by simp⟩ (head_skipBlanks cs)

/-! ## Trimming -/

/-- A text that neither starts nor ends with a blank, and that has nothing but blanks around it. -/
def Trimmed (cs core : List Char) : Prop :=
  ∃ before after, cs = before ++ (core ++ after) ∧ (∀ c ∈ before ++ after, isBlank c = true) ∧
    (∀ c ∈ core.head?, isBlank c = false) ∧ ∀ c ∈ core.getLast?, isBlank c = false

/-- A trimmed text is what is behind the blanks at its start. -/
theorem trimStart_eq_iff {cs rest : List Char} :
    trimStart cs = rest ↔ ∃ before, cs = before ++ rest ∧ (∀ c ∈ before, isBlank c = true) ∧
      ∀ c ∈ rest.head?, isBlank c = false := by
  simp only [← takeWhile_dropWhile_eq_iff, trimStart, exists_eq_left']

/-- A trimmed text is what is before the blanks at its end. -/
theorem trimEnd_eq_iff {cs core : List Char} :
    trimEnd cs = core ↔ ∃ after, cs = core ++ after ∧ (∀ c ∈ after, isBlank c = true) ∧
      ∀ c ∈ core.getLast?, isBlank c = false := by
  have hreverse : trimEnd cs = core ↔ trimStart cs.reverse = core.reverse := by
    rw [trimEnd, trimStart, List.reverse_eq_iff]
  rw [hreverse, trimStart_eq_iff]
  constructor
  · rintro ⟨before, hcs, hbefore, hlast⟩
    refine ⟨before.reverse, ?_, by simpa using hbefore, by simpa using hlast⟩
    rw [← List.reverse_inj, hcs, List.reverse_append, List.reverse_reverse]
  · rintro ⟨after, rfl, hafter, hlast⟩
    exact ⟨after.reverse, List.reverse_append, by simpa using hafter, by simpa using hlast⟩

/-- Trimming gives the only text that is trimmed. -/
theorem trim_eq_iff {cs core : List Char} : trim cs = core ↔ Trimmed cs core := by
  rw [trim, trimEnd_eq_iff]
  constructor
  · rintro ⟨after, hstart, hafter, hlast⟩
    obtain ⟨before, hcs, hbefore, hhead⟩ := trimStart_eq_iff.mp hstart
    refine ⟨before, after, hcs, List.forall_mem_append.mpr ⟨hbefore, hafter⟩, ?_, hlast⟩
    cases core with
    | nil => simp
    | cons c rest => exact hhead
  · rintro ⟨before, after, rfl, hblank, hhead, hlast⟩
    cases core with
    | nil =>
        -- a blank text is trimmed away from its start
        have hstart : trimStart (before ++ after) = [] :=
          trimStart_eq_iff.mpr ⟨before ++ after, by simp, hblank, by simp⟩
        exact ⟨[], hstart, by simp, by simp⟩
    | cons c rest =>
        rw [List.forall_mem_append] at hblank
        exact ⟨after, trimStart_eq_iff.mpr ⟨before, rfl, hblank.1, hhead⟩, hblank.2, hlast⟩

/-- The text of the value: without the blanks around it, and without one semicolon at its end. -/
def Body (cs body : List Char) : Prop :=
  Trimmed cs (body ++ [';']) ∨ Trimmed cs body ∧ body.getLast? ≠ some ';'

/-- One semicolon at the end is dropped, if there is one. -/
theorem dropSemicolon_eq_iff {cs body : List Char} :
    dropSemicolon cs = body ↔ cs = body ++ [';'] ∨ cs = body ∧ body.getLast? ≠ some ';' := by
  unfold dropSemicolon
  split
  · rename_i hlast
    obtain ⟨front, rfl⟩ := List.getLast?_eq_some_iff.mp hlast
    simp only [List.dropLast_concat, List.append_cancel_right_eq]
    constructor
    · exact .inl
    · rintro (h | ⟨rfl, hnot⟩)
      · exact h
      · exact absurd hlast hnot
  · rename_i hlast
    constructor
    · rintro rfl
      exact .inr ⟨rfl, hlast⟩
    · rintro (rfl | ⟨h, -⟩)
      · exact absurd List.getLast?_concat hlast
      · exact h

/-- The body that is read is the body of the grammar. -/
theorem literalBody_eq_iff {cs body : List Char} : literalBody cs = body ↔ Body cs body := by
  rw [literalBody, dropSemicolon_eq_iff, trim_eq_iff, trim_eq_iff, Body]

/-! ## The grammar -/

/-- The scalars and their values. -/
inductive ScalarText : List Char → Literal → Prop where
  | true : ScalarText ['T', 'R', 'U', 'E'] (.bool true)
  | false : ScalarText ['F', 'A', 'L', 'S', 'E'] (.bool false)
  | num {token : List Char} {x : Binary64} (h : Binary64.ofChars? token = some x) :
      ScalarText token (.num x)

mutual

/-- A text starts with blanks and a value, and goes on with the rest. -/
inductive DerivesValue : List Char → Literal → List Char → Prop where
  | emptyList {cs inner rest : List Char} (hopen : Blanks cs ('[' :: inner))
      (hclose : Blanks inner (']' :: rest)) : DerivesValue cs (.list []) rest
  | list {cs inner rest : List Char} {items : List Literal} (hopen : Blanks cs ('[' :: inner))
      (hitems : DerivesItems inner items rest) : DerivesValue cs (.list items) rest
  | str {cs text rest : List Char} (hopen : Blanks cs ('"' :: (text ++ '"' :: rest)))
      (htext : ∀ c ∈ text, c ≠ '"') : DerivesValue cs (.str (String.ofList text)) rest
  /-- A scalar takes all characters before one that ends it, and does not start like a string. -/
  | scalar {cs run token rest : List Char} {c : Char} {t : Literal}
      (hopen : Blanks cs (c :: run ++ rest)) (hblank : isAsciiBlank c = false) (hquote : c ≠ '"')
      (hrun : ∀ d ∈ c :: run, endsScalar d = false) (hstops : Stops rest)
      (htrim : Trimmed (c :: run) token) (hvalue : ScalarText token t) : DerivesValue cs t rest

/-- A text starts with the items of a list and its closing bracket, and goes on with the rest. -/
inductive DerivesItems : List Char → List Literal → List Char → Prop where
  | last {cs middle rest : List Char} {t : Literal} (hitem : DerivesValue cs t middle)
      (hclose : Blanks middle (']' :: rest)) : DerivesItems cs [t] rest
  | more {cs middle next rest : List Char} {t : Literal} {ts : List Literal}
      (hitem : DerivesValue cs t middle) (hcomma : Blanks middle (',' :: next))
      (hitems : DerivesItems next ts rest) : DerivesItems cs (t :: ts) rest

end

/-- A text is a literal with a tree: its body is a value, and blanks. -/
def Derives (text : String) (t : Literal) : Prop :=
  ∃ body rest, Body text.toList body ∧ DerivesValue body t rest ∧ Blanks rest []

/-! ## Tokens -/

/-- A token is read as a scalar just when the grammar says so. -/
theorem scalarValue?_eq_some_iff {token : List Char} {t : Literal} :
    scalarValue? token = some t ↔ ScalarText token t := by
  constructor
  · intro h
    unfold scalarValue? at h
    split at h
    · rename_i htrue
      cases h
      exact htrue ▸ .true
    split at h
    · rename_i hfalse
      cases h
      exact hfalse ▸ .false
    · obtain ⟨x, hx, rfl⟩ := Option.map_eq_some_iff.mp h
      exact .num hx
  · rintro (_ | _ | h)
    · rfl
    · rfl
    · exact scalarValue?_of_ofChars? h

theorem not_scalarText_nil {t : Literal} : ¬ScalarText [] t := by
  intro h
  have hvalue := scalarValue?_eq_some_iff.mpr h
  contradiction

/-- A string is read up to its closing quote. -/
theorem readString_eq_ok_iff {cs rest : List Char} {t : Literal} :
    readString cs = .ok (t, rest) ↔
      ∃ text, cs = text ++ '"' :: rest ∧ (∀ c ∈ text, c ≠ '"') ∧ t = .str (String.ofList text) := by
  constructor
  · intro h
    obtain ⟨hcs, htext, hclose⟩ := takeWhile_dropWhile_eq_iff.mp
      (⟨rfl, rfl⟩ : cs.takeWhile (· != '"') = _ ∧ cs.dropWhile (· != '"') = _)
    unfold readString at h
    split at h
    · cases h
    · rename_i c more hdrop
      cases h
      rw [hdrop] at hcs hclose
      obtain rfl : c = '"' := by simpa using hclose c rfl
      exact ⟨_, hcs, by simpa using htext, rfl⟩
  · rintro ⟨text, rfl, htext, rfl⟩
    obtain ⟨htake, hdrop⟩ := takeWhile_dropWhile_eq_iff.mpr
      (⟨rfl, by simpa using htext, by simp⟩ : text ++ '"' :: rest = text ++ '"' :: rest ∧
        (∀ c ∈ text, (c != '"') = true) ∧ ∀ c ∈ ('"' :: rest).head?, (c != '"') = false)
    simp only [readString, htake, hdrop]

/-- A scalar is read up to the next character that ends one. -/
theorem readScalar_eq_ok_iff {cs rest : List Char} {t : Literal} :
    readScalar cs = .ok (t, rest) ↔
      ∃ run token, cs = run ++ rest ∧ (∀ c ∈ run, endsScalar c = false) ∧ Stops rest ∧
        Trimmed run token ∧ ScalarText token t := by
  have hspan (run : List Char) : (cs = run ++ rest ∧ (∀ c ∈ run, endsScalar c = false) ∧ Stops rest) ↔
      cs.takeWhile (fun c => !endsScalar c) = run ∧ cs.dropWhile (fun c => !endsScalar c) = rest := by
    simp [takeWhile_dropWhile_eq_iff, Stops]
  constructor
  · intro h
    simp only [readScalar] at h
    split at h
    · rename_i value hvalue
      cases h
      obtain ⟨hcs, hrun, hstops⟩ := (hspan _).mpr ⟨rfl, rfl⟩
      exact ⟨_, _, hcs, hrun, hstops, trim_eq_iff.mp rfl, scalarValue?_eq_some_iff.mp hvalue⟩
    · cases h
  · rintro ⟨run, token, hcs, hrun, hstops, htrim, hvalue⟩
    obtain ⟨htake, hdrop⟩ := (hspan run).mp ⟨hcs, hrun, hstops⟩
    simp only [readScalar, htake, hdrop, trim_eq_iff.mpr htrim, scalarValue?_eq_some_iff.mpr hvalue]

/-! ## The reader -/

/-- A value is read after the blanks before it. -/
theorem readValue_skipBlanks (bound : Nat) (cs : List Char) :
    readValue (bound + 1) (skipBlanks cs) = readValue (bound + 1) cs := by
  rw [readValue, readValue, skipBlanks_skipBlanks]

/-- Blanks before items do not matter. -/
theorem readItems_skipBlanks (bound : Nat) (cs : List Char) :
    readItems (bound + 2) (skipBlanks cs) = readItems (bound + 2) cs := by
  rw [readItems, readItems, readValue_skipBlanks]

/-- Items that are read are read with the blanks before them. -/
theorem readItems_skipBlanks_of_ok {bound : Nat} {cs : List Char}
    {read : List Literal × List Char} (h : readItems bound (skipBlanks cs) = .ok read) :
    readItems bound (skipBlanks cs) = readItems bound cs := by
  match bound with
  | 0 => cases h
  | 1 =>
      rw [readItems, readValue] at h
      cases h
  | bound + 2 => exact readItems_skipBlanks bound cs

mutual

/-- What is read as a value is one. -/
theorem derives_of_readValue {bound : Nat} {cs rest : List Char} {t : Literal}
    (h : readValue bound cs = .ok (t, rest)) : DerivesValue cs t rest := by
  cases bound with
  | zero => cases h
  | succ bound =>
      have hblanks := blanks_skipBlanks cs
      unfold readValue at h
      split at h
      · cases h
      · rename_i inner hopen
        rw [hopen] at hblanks
        split at h
        · rename_i more hclose
          cases h
          exact .emptyList hblanks (hclose ▸ blanks_skipBlanks inner)
        · split at h
          · rename_i items more hitems
            cases h
            rw [readItems_skipBlanks_of_ok hitems] at hitems
            exact .list hblanks (derives_of_readItems hitems)
          · cases h
      · rename_i inner hquote
        obtain ⟨text, rfl, htext, rfl⟩ := readString_eq_ok_iff.mp h
        exact .str (hquote ▸ hblanks) htext
      · rename_i hend hopen hquote
        obtain ⟨run, token, hcs, hrun, hstops, htrim, hvalue⟩ := readScalar_eq_ok_iff.mp h
        cases run with
        | nil =>
            obtain rfl : [] = token := trim_eq_iff.mpr htrim
            exact absurd hvalue not_scalarText_nil
        | cons c run =>
            refine .scalar (hcs ▸ hblanks) (head_skipBlanks cs c (by simp [hcs])) ?_ hrun hstops htrim hvalue
            rintro rfl
            exact hquote _ hcs

/-- What is read as items is derived as items. -/
theorem derives_of_readItems {bound : Nat} {cs rest : List Char} {ts : List Literal}
    (h : readItems bound cs = .ok (ts, rest)) : DerivesItems cs ts rest := by
  cases bound with
  | zero => cases h
  | succ bound =>
      unfold readItems at h
      split at h
      · cases h
      · rename_i item middle hitem
        have hblanks := blanks_skipBlanks middle
        split at h
        · rename_i next hcomma
          rw [hcomma] at hblanks
          split at h
          · rename_i items more hitems
            cases h
            exact .more (derives_of_readValue hitem) hblanks (derives_of_readItems hitems)
          · cases h
        · rename_i more hclose
          cases h
          exact .last (derives_of_readValue hitem) (hclose ▸ hblanks)
        · cases h

end

mutual

/-- A derived value takes characters. -/
theorem DerivesValue.length_lt {cs rest : List Char} {t : Literal} :
    DerivesValue cs t rest → rest.length < cs.length
  | .emptyList hopen hclose => by
      have hle := hopen.length_le
      have hinner := hclose.length_le
      rw [List.length_cons] at hle hinner
      omega
  | .list hopen hitems => by
      have hle := hopen.length_le
      have hinner := hitems.length_lt
      rw [List.length_cons] at hle
      omega
  | .str hopen htext => by
      have hle := hopen.length_le
      rw [List.length_cons, List.length_append, List.length_cons] at hle
      omega
  | .scalar hopen hblank hquote hrun hstops htrim hvalue => by
      have hle := hopen.length_le
      rw [List.length_append, List.length_cons] at hle
      omega

/-- Derived items take characters. -/
theorem DerivesItems.length_lt {cs rest : List Char} {ts : List Literal} :
    DerivesItems cs ts rest → rest.length < cs.length
  | .last hitem hclose => by
      have hlt := hitem.length_lt
      have hle := hclose.length_le
      rw [List.length_cons] at hle
      omega
  | .more hitem hcomma hitems => by
      have hlt := hitem.length_lt
      have hle := hcomma.length_le
      have hmore := hitems.length_lt
      rw [List.length_cons] at hle
      omega

end

/-- A value starts, after its blanks, with a character that closes no list. -/
theorem DerivesValue.skipBlanks_ne {cs rest more : List Char} {t : Literal}
    (h : DerivesValue cs t rest) : skipBlanks cs ≠ ']' :: more := by
  cases h with
  | emptyList hopen | list hopen | str hopen => simp [hopen.skipBlanks_cons (by decide)]
  | @scalar cs run token rest c t hopen hblank hquote hrun =>
      rw [hopen.skipBlanks_cons hblank]
      intro heq
      obtain rfl : c = ']' := (List.cons.inj heq).1
      exact absurd (hrun ']' List.mem_cons_self) (by decide)

/-- Items do not begin with a closing bracket. -/
theorem DerivesItems.skipBlanks_ne {cs rest more : List Char} {ts : List Literal}
    (h : DerivesItems cs ts rest) : skipBlanks cs ≠ ']' :: more := by
  cases h with
  | last hitem | more hitem => exact hitem.skipBlanks_ne

mutual

/-- A value is read as what it is, and takes two steps from the bound for every character. -/
theorem DerivesValue.readValue_eq_ok {cs rest : List Char} {t : Literal} {bound : Nat} :
    DerivesValue cs t rest → 2 * cs.length < bound → readValue bound cs = .ok (t, rest)
  | .emptyList hopen hclose, hbound => by
      obtain ⟨bound, rfl⟩ : ∃ b, bound = b + 1 := ⟨bound - 1, by omega⟩
      simp only [readValue, hopen.skipBlanks_cons (by decide), hclose.skipBlanks_cons (by decide)]
  | .list hopen hitems, hbound => by
      have hle := hopen.length_le
      rw [List.length_cons] at hle
      obtain ⟨bound, rfl⟩ : ∃ b, bound = b + 3 := ⟨bound - 3, by omega⟩
      have hread := hitems.readItems_eq_ok (show _ < bound + 2 by omega)
      simp only [readValue, hopen.skipBlanks_cons (by decide)]
      split
      · rename_i more hclose
        exact absurd hclose hitems.skipBlanks_ne
      · rw [readItems_skipBlanks, hread]
  | .str hopen htext, hbound => by
      obtain ⟨bound, rfl⟩ : ∃ b, bound = b + 1 := ⟨bound - 1, by omega⟩
      simp only [readValue, hopen.skipBlanks_cons (by decide)]
      exact readString_eq_ok_iff.mpr ⟨_, rfl, htext, rfl⟩
  | @DerivesValue.scalar _ _ _ _ c _ hopen hblank hquote hrun hstops htrim hvalue, hbound => by
      obtain ⟨bound, rfl⟩ : ∃ b, bound = b + 1 := ⟨bound - 1, by omega⟩
      have hbracket : c ≠ '[' := by
        rintro rfl
        exact absurd (hrun '[' List.mem_cons_self) (by decide)
      rw [readValue, hopen.skipBlanks_cons hblank]
      split
      · contradiction
      · rename_i heq
        exact absurd (List.cons.inj heq).1 hbracket
      · rename_i heq
        exact absurd (List.cons.inj heq).1 hquote
      · exact readScalar_eq_ok_iff.mpr ⟨_, _, rfl, hrun, hstops, htrim, hvalue⟩

/-- Derived items are read, if the bound is beyond the text. -/
theorem DerivesItems.readItems_eq_ok {cs rest : List Char} {ts : List Literal} {bound : Nat} :
    DerivesItems cs ts rest → 2 * cs.length + 1 < bound → readItems bound cs = .ok (ts, rest)
  | .last hitem hclose, hbound => by
      obtain ⟨bound, rfl⟩ : ∃ b, bound = b + 1 := ⟨bound - 1, by omega⟩
      have hread := hitem.readValue_eq_ok (show _ < bound by omega)
      simp only [readItems, hread, hclose.skipBlanks_cons (by decide)]
  | .more hitem hcomma hitems, hbound => by
      obtain ⟨bound, rfl⟩ : ∃ b, bound = b + 1 := ⟨bound - 1, by omega⟩
      have hlt := hitem.length_lt
      have hle := hcomma.length_le
      rw [List.length_cons] at hle
      have hread := hitem.readValue_eq_ok (show _ < bound by omega)
      have hmore := hitems.readItems_eq_ok (show _ < bound by omega)
      simp only [readItems, hread, hcomma.skipBlanks_cons (by decide), hmore]

end

/-! ## Whole texts -/

/-- A text is read as a tree just when the tree is derived from it. -/
theorem parse_eq_ok_iff_derives {text : String} {t : Literal} :
    Literal.parse text = .ok t ↔ Derives text t := by
  rw [parse_eq_ok_iff]
  constructor
  · rintro ⟨rest, hread, hrest⟩
    exact ⟨_, rest, literalBody_eq_iff.mp rfl, derives_of_readValue hread, blanks_nil_iff.mpr hrest⟩
  · rintro ⟨body, rest, hbody, hvalue, hrest⟩
    rw [literalBody_eq_iff.mpr hbody]
    exact ⟨rest, hvalue.readValue_eq_ok (by unfold readBound; omega), blanks_nil_iff.mp hrest⟩

/-- **Literals are read by their grammar**: a text is read as a tree exactly when the grammar
derives the tree from it, no text has two trees, and every text without one is refused as no
literal. -/
theorem literal_grammar (text : String) :
    (∀ t, Literal.parse text = .ok t ↔ Derives text t) ∧
    (∀ t t', Derives text t → Derives text t' → t = t') ∧
    ((∀ t, ¬Derives text t) →
      ∃ shown defect, Literal.parse text = .error (.invalidLiteral shown defect)) := by
  refine ⟨fun t => parse_eq_ok_iff_derives, fun t t' h h' => ?_, fun hnone => ?_⟩
  · have heq := (parse_eq_ok_iff_derives.mpr h).symm.trans (parse_eq_ok_iff_derives.mpr h')
    exact Except.ok.inj heq
  · cases hparse : Literal.parse text with
    | ok t => exact absurd (parse_eq_ok_iff_derives.mp hparse) (hnone t)
    | error e =>
        obtain ⟨shown, defect, rfl⟩ := invalidLiteral_of_parse hparse
        exact ⟨shown, defect, rfl⟩

end RobotCell
