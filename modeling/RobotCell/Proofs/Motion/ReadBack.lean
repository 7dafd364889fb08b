import RobotCell.Motion.Pose
import RobotCell.Proofs.Number.ReadBack

/-!
# RobotCell.Proofs.Motion.ReadBack

The literal of a target reads back as the target.

`Printed text t` says that the reader gets the tree `t` from `text` wherever a value may stand.
Scalars are printed by their characters (`printed_scalar`), lists by their items
(`PrintedAll.bracketed`), and so on up to the literals of poses.  What is read is the target
`asWritten`: a zero has no sign in a literal, and an external axis at or above the mark of an unused
one is not in use.
-/

namespace RobotCell

/-! ## Blanks -/

theorem trimStart_of_head {c : Char} {cs : List Char} (h : isBlank c = false) :
    trimStart (c :: cs) = c :: cs :=
  List.dropWhile_cons_of_neg (by simp [h])

theorem trimEnd_of_last {c : Char} {cs : List Char} (h : isBlank c = false) :
    trimEnd (cs ++ [c]) = cs ++ [c] := by
  unfold trimEnd
  rw [List.reverse_append, List.reverse_singleton, List.singleton_append,
    List.dropWhile_cons_of_neg (by simp [h]), List.reverse_cons, List.reverse_reverse]

/-- A text without blanks at its ends is not trimmed. -/
theorem trim_of_ends {cs : List Char} (hhead : ∀ c ∈ cs.head?, isBlank c = false)
    (hlast : ∀ c ∈ cs.getLast?, isBlank c = false) : trim cs = cs := by
  have hstart : trimStart cs = cs := by
    cases cs with
    | nil => rfl
    | cons c rest => exact trimStart_of_head (hhead c rfl)
  rw [trim, hstart]
  cases hcs : cs.reverse with
  | nil =>
      obtain rfl := List.reverse_eq_nil_iff.mp hcs
      rfl
  | cons c rest =>
      obtain rfl := List.reverse_eq_cons_iff.mp hcs
      exact trimEnd_of_last (hlast c (by simp))

/-- A text without blanks is trimmed. -/
theorem trim_of_not_blank {cs : List Char} (h : ∀ c ∈ cs, isBlank c = false) : trim cs = cs :=
  trim_of_ends (fun c hc => h c (List.mem_of_mem_head? hc))
    (fun c hc => h c (List.mem_of_mem_getLast? hc))

theorem skipBlanks_of_head {c : Char} {cs : List Char} (h : isAsciiBlank c = false) :
    skipBlanks (c :: cs) = c :: cs :=
  List.dropWhile_cons_of_neg (by simp [h])

/-! ## Printed texts -/

/-- What may follow a value: the end of the text, or a character that ends a scalar. -/
def Stops (rest : List Char) : Prop := ∀ c ∈ rest.head?, endsScalar c = true

theorem stops_cons {c : Char} {cs : List Char} (h : endsScalar c = true) : Stops (c :: cs) := by
  intro d hd
  obtain rfl := Option.some.inj hd
  exact h

/-- A character that does not end a line or a statement. -/
def isInline (c : Char) : Bool := c != '\n' && c != ';'

/-- A text on one line that is read as a tree wherever a value may stand, whatever bound is left
beyond its length. -/
structure Printed (text : String) (t : Literal) : Prop where
  head : ∃ c cs, text.toList = c :: cs ∧ isAsciiBlank c = false ∧ c ≠ ']'
  inline : ∀ c ∈ text.toList, isInline c = true
  reads : ∀ bound rest, text.toList.length < bound → Stops rest →
    readValue bound (text.toList ++ rest) = .ok (t, rest)

/-- A trimmed text without a semicolon at its end is its own body. -/
theorem literalBody_of_trim {cs : List Char} (htrim : trim cs = cs)
    (hlast : cs.getLast? ≠ some ';') : literalBody cs = cs := by
  rw [literalBody, htrim, dropSemicolon, if_neg hlast]

/-- A text is read as a literal when its body is read as a value, with nothing but blanks left. -/
theorem parse_eq_ok_iff {text : String} {t : Literal} :
    Literal.parse text = .ok t ↔
      ∃ rest, readValue (readBound (literalBody text.toList)) (literalBody text.toList) =
        .ok (t, rest) ∧ skipBlanks rest = [] := by
  simp only [Literal.parse]
  constructor
  · intro h
    split at h
    · cases h
    · rename_i value rest hread
      split at h
      · rename_i hrest
        cases h
        exact ⟨rest, hread, hrest⟩
      · cases h
  · rintro ⟨rest, hread, hrest⟩
    simp only [hread, hrest]

/-- Every text that is not read is refused as no literal. -/
theorem invalidLiteral_of_parse {text : String} {e : Failure} (h : Literal.parse text = .error e) :
    ∃ shown defect, e = .invalidLiteral shown defect := by
  simp only [Literal.parse] at h
  split at h
  · cases h
    exact ⟨_, _, rfl⟩
  · split at h
    · cases h
    · cases h
      exact ⟨_, _, rfl⟩

/-- A printed text is one literal when it has no blanks at its ends. -/
theorem Printed.parse {text : String} {t : Literal} (h : Printed text t)
    (htrim : trim text.toList = text.toList) : Literal.parse text = .ok t := by
  have hbody : literalBody text.toList = text.toList := by
    refine literalBody_of_trim htrim fun hsemicolon => ?_
    exact absurd (h.inline ';' (List.mem_of_mem_getLast? hsemicolon)) (by decide)
  have hread := h.reads (readBound text.toList) [] (by unfold readBound; omega) (by simp [Stops])
  rw [List.append_nil] at hread
  exact parse_eq_ok_iff.mpr ⟨[], by rw [hbody, hread], rfl⟩

/-! ## Scalars -/

/-- A character of a scalar: neither blank nor a mark of the syntax. -/
def isScalarChar (c : Char) : Bool := !endsScalar c && !isBlank c && c != '"' && c != ';'

/-- A character of a scalar ends none, is no blank and starts no text. -/
theorem isScalarChar_iff {c : Char} :
    isScalarChar c = true ↔ endsScalar c = false ∧ isBlank c = false ∧ c ≠ '"' ∧ c ≠ ';' := by
  simp [isScalarChar, and_assoc]

/-- A character of a scalar may stand in a line. -/
theorem isInline_of_isScalarChar {c : Char} (h : isScalarChar c = true) : isInline c = true := by
  obtain ⟨-, hblank, -, hsemicolon⟩ := isScalarChar_iff.mp h
  have hline : c ≠ '\n' := by
    rintro rfl
    exact absurd hblank (by decide)
  simp [isInline, hline, hsemicolon]

theorem isAsciiBlank_of_isScalarChar {c : Char} (h : isScalarChar c = true) :
    isAsciiBlank c = false := by
  obtain ⟨-, hblank, -, -⟩ := isScalarChar_iff.mp h
  exact Bool.eq_false_iff.mpr fun hascii => by simp [isBlank_of_isAsciiBlank hascii] at hblank

/-- A value that starts with no mark is a scalar. -/
theorem readValue_of_scalar {bound : Nat} {c : Char} {cs : List Char} (h : isScalarChar c = true) :
    readValue (bound + 1) (c :: cs) = readScalar (c :: cs) := by
  obtain ⟨hends, -, hquote, -⟩ := isScalarChar_iff.mp h
  have hbracket : c ≠ '[' := by
    rintro rfl
    exact absurd hends (by decide)
  rw [readValue, skipBlanks_of_head (isAsciiBlank_of_isScalarChar h)]
  split <;> simp_all

/-- A scalar is the run of characters before the next mark. -/
theorem readScalar_append {token rest : List Char} {t : Literal}
    (hchars : ∀ c ∈ token, isScalarChar c = true) (hrest : Stops rest)
    (hvalue : scalarValue? token = some t) : readScalar (token ++ rest) = .ok (t, rest) := by
  have hrun (c : Char) (hc : c ∈ token) : (!endsScalar c) = true := by
    simp [(isScalarChar_iff.mp (hchars c hc)).1]
  have htake : (token ++ rest).takeWhile (fun c => !endsScalar c) = token := by
    rw [List.takeWhile_append_of_pos hrun]
    cases rest with
    | nil => simp
    | cons c cs => simp [hrest c rfl]
  have hdrop : (token ++ rest).dropWhile (fun c => !endsScalar c) = rest := by
    rw [List.dropWhile_append_of_pos hrun]
    cases rest with
    | nil => simp
    | cons c cs => simp [hrest c rfl]
  have htrim : trim token = token :=
    trim_of_not_blank fun c hc => (isScalarChar_iff.mp (hchars c hc)).2.1
  simp only [readScalar, htake, hdrop, htrim, hvalue]

/-- A run of such characters is printed when it stands for a value. -/
theorem printed_scalar {text : String} {t : Literal}
    (hchars : ∀ c ∈ text.toList, isScalarChar c = true)
    (hvalue : scalarValue? text.toList = some t) : Printed text t := by
  obtain ⟨c, cs, hcs⟩ : ∃ c cs, text.toList = c :: cs := by
    refine List.exists_cons_of_ne_nil fun hnil => ?_
    rw [hnil] at hvalue
    cases hvalue
  have hc : isScalarChar c = true := hchars c (by simp [hcs])
  constructor
  · refine ⟨c, cs, hcs, isAsciiBlank_of_isScalarChar hc, ?_⟩
    rintro rfl
    exact absurd (isScalarChar_iff.mp hc).1 (by decide)
  · exact fun d hd => isInline_of_isScalarChar (hchars d hd)
  · intro bound rest hbound hrest
    obtain ⟨b, rfl⟩ : ∃ b, bound = b + 1 := ⟨bound - 1, by omega⟩
    rw [hcs, List.cons_append, readValue_of_scalar hc, ← List.cons_append, ← hcs]
    exact readScalar_append hchars hrest hvalue

theorem printed_flagText (b : Bool) : Printed (flagText b) (.bool b) := by
  cases b
  · exact printed_scalar (List.all_eq_true.mp (by decide)) rfl
  · exact printed_scalar (List.all_eq_true.mp (by decide)) rfl

/-- Digits are characters of scalars. -/
theorem isScalarChar_of_isDigit {c : Char} (h : c.isDigit = true) : isScalarChar c = true := by
  have hrange : 48 ≤ c.toNat ∧ c.toNat ≤ 57 := by
    simpa [Char.isDigit, UInt32.le_iff_toNat_le] using h
  rw [isScalarChar_iff]
  refine ⟨?_, ?_, ?_, ?_⟩
  · rw [Bool.eq_false_iff]
    intro hends
    simp only [endsScalar, Bool.or_eq_true, beq_iff_eq] at hends
    rcases hends with (rfl | rfl) | rfl <;> exact absurd hrange (by decide)
  · simp only [isBlank, blankRanges, List.any_cons, List.any_nil, Bool.or_false, Bool.or_eq_false_iff,
      Bool.and_eq_false_iff, decide_eq_false_iff_not]
    omega
  · rintro rfl
    exact absurd hrange (by decide)
  · rintro rfl
    exact absurd hrange (by decide)

/-- The text of a number has the characters of a scalar. -/
theorem isScalarChar_of_mem_toChars {x : Binary64} {c : Char} (h : c ∈ x.toChars) :
    isScalarChar c = true := by
  have hsign {negative : Bool} (hc : c ∈ if negative then ['-'] else []) :
      isScalarChar c = true := by
    cases negative with
    | false => simp at hc
    | true =>
        obtain rfl := List.mem_singleton.mp hc
        decide
  cases x with
  | nan => exact List.all_eq_true.mp (by decide : ['N', 'a', 'N'].all isScalarChar = true) c h
  | infinite negative =>
      exact (List.mem_append.mp h).elim hsign
        (List.all_eq_true.mp (by decide : ['i', 'n', 'f'].all isScalarChar = true) c)
  | finite negative units hlt hgrid =>
      rcases List.mem_append.mp h with hc | hc
      · exact hsign hc
      · rcases mem_magnitudeText hc with hdigit | rfl
        · exact isScalarChar_of_isDigit hdigit
        · decide

/-- A text that is read as a number is no truth value. -/
theorem scalarValue?_of_ofChars? {token : List Char} {x : Binary64}
    (h : Binary64.ofChars? token = some x) : scalarValue? token = some (.num x) := by
  unfold scalarValue?
  split
  · rename_i htrue
    rw [htrue] at h
    cases h
  split
  · rename_i hfalse
    rw [hfalse] at h
    cases h
  · rw [h]
    rfl

/-- The text of a number has characters of scalars only. -/
theorem isScalarChar_of_mem_numberText {x : Binary64} {c : Char} (h : c ∈ (numberText x).toList) :
    isScalarChar c = true := by
  unfold numberText at h
  split at h
  · obtain rfl := List.mem_singleton.mp h
    decide
  · exact isScalarChar_of_mem_toChars (String.toList_ofList ▸ h)

/-- The text of a number is read as the number, a zero without its sign. -/
theorem printed_numberText (x : Binary64) : Printed (numberText x) (.num x.dropZeroSign) := by
  refine printed_scalar (fun c => isScalarChar_of_mem_numberText) (scalarValue?_of_ofChars? ?_)
  unfold numberText Binary64.dropZeroSign
  split
  · rfl
  · rw [Binary64.toText, String.toList_ofList]
    exact ofChars?_toChars x

/-! ## Lists -/

/-- Texts that are printed as the trees of a list, one by one. -/
inductive PrintedAll : List String → List Literal → Prop where
  | nil : PrintedAll [] []
  | cons {text : String} {t : Literal} {texts : List String} {ts : List Literal}
      (head : Printed text t) (tail : PrintedAll texts ts) : PrintedAll (text :: texts) (t :: ts)

/-- Texts that are printed one by one are printed as a list. -/
theorem PrintedAll.map {α : Type} {f : α → String} {g : α → Literal}
    (h : ∀ a, Printed (f a) (g a)) (as : List α) : PrintedAll (as.map f) (as.map g) := by
  induction as with
  | nil => exact .nil
  | cons a as ih => exact .cons (h a) ih

/-- The last item is before a closing bracket. -/
theorem readItems_last {bound : Nat} {cs rest : List Char} {t : Literal}
    (h : readValue bound cs = .ok (t, ']' :: rest)) :
    readItems (bound + 1) cs = .ok ([t], rest) := by
  rw [readItems, h]
  rfl

/-- An item before a comma has others behind it. -/
theorem readItems_more {bound : Nat} {cs more rest : List Char} {t : Literal} {ts : List Literal}
    (h : readValue bound cs = .ok (t, ',' :: more)) (hmore : readItems bound more = .ok (ts, rest)) :
    readItems (bound + 1) cs = .ok (t :: ts, rest) := by
  have hskip : skipBlanks (',' :: more) = ',' :: more := rfl
  simp only [readItems, h, hskip, hmore]

/-- A value before a comma is the first of the items. -/
theorem readItems_first {bound : Nat} {cs more rest : List Char} {t : Literal} {ts : List Literal}
    (h : readValue bound cs = .ok (t, ',' :: more))
    (hitems : readItems (bound + 1) cs = .ok (ts, rest)) : ∃ later, ts = t :: later := by
  have hskip : skipBlanks (',' :: more) = ',' :: more := rfl
  simp only [readItems, h, hskip] at hitems
  split at hitems
  · cases hitems
    exact ⟨_, rfl⟩
  · cases hitems

/-- After an opening bracket come the items of a list, unless it is closed at once. -/
theorem readValue_open {bound : Nat} {c : Char} {cs : List Char} (hblank : isAsciiBlank c = false)
    (hclose : c ≠ ']') :
    readValue (bound + 1) ('[' :: c :: cs) =
      (readItems bound (c :: cs)).map fun (items, rest) => (.list items, rest) := by
  have hopen : skipBlanks ('[' :: c :: cs) = '[' :: c :: cs := rfl
  rw [readValue, hopen]
  simp only [skipBlanks_of_head hblank]
  split
  · rename_i heq
    exact absurd (List.cons.inj heq).1 hclose
  · cases readItems bound (c :: cs) <;> rfl

/-- The characters of texts apart by commas. -/
def itemChars (texts : List String) : List Char := [','].intercalate (texts.map String.toList)

/-- A list stands between brackets. -/
theorem toList_bracketed (texts : List String) :
    (bracketed texts).toList = '[' :: (itemChars texts ++ [']']) := by
  simp [bracketed, itemChars, String.toList_intercalate]

theorem itemChars_cons_cons (text text' : String) (texts : List String) :
    itemChars (text :: text' :: texts) = text.toList ++ ',' :: itemChars (text' :: texts) := by
  simp [itemChars, List.intercalate_cons_cons]

/-- The items of a list up to its bracket; every item takes one from the bound. -/
theorem PrintedAll.readItems {texts : List String} {ts : List Literal} (h : PrintedAll texts ts)
    (hne : texts ≠ []) {bound : Nat} (rest : List Char)
    (hbound : (itemChars texts).length + 1 < bound) :
    RobotCell.readItems bound (itemChars texts ++ ']' :: rest) = .ok (ts, rest) := by
  induction h generalizing bound with
  | nil => exact absurd rfl hne
  | @cons text t texts ts hhead htail ih =>
      obtain ⟨b, rfl⟩ : ∃ b, bound = b + 1 := ⟨bound - 1, by omega⟩
      cases htail with
      | nil =>
          have hchars : itemChars [text] = text.toList := by simp [itemChars]
          rw [hchars] at hbound ⊢
          exact readItems_last (hhead.reads b _ (by omega) (stops_cons (by decide)))
      | @cons text' t' texts ts hnext htail =>
          rw [itemChars_cons_cons, List.length_append, List.length_cons] at hbound
          rw [itemChars_cons_cons, List.append_assoc, List.cons_append]
          exact readItems_more (hhead.reads b _ (by omega) (stops_cons (by decide)))
            (ih (by simp) (by omega))

/-- The characters of a list are commas and those of its items. -/
theorem mem_itemChars {texts : List String} {c : Char} (h : c ∈ itemChars texts) :
    c = ',' ∨ ∃ text ∈ texts, c ∈ text.toList := by
  induction texts with
  | nil => simp [itemChars] at h
  | cons text texts ih =>
      cases texts with
      | nil => exact .inr ⟨text, by simp, by simpa [itemChars] using h⟩
      | cons text' texts =>
          rw [itemChars_cons_cons] at h
          rcases List.mem_append.mp h with hfirst | hrest
          · exact .inr ⟨text, by simp, hfirst⟩
          rcases List.mem_cons.mp hrest with hcomma | hmore
          · exact .inl hcomma
          rcases ih hmore with hcomma | ⟨later, hlater, hc⟩
          · exact .inl hcomma
          · exact .inr ⟨later, List.mem_cons_of_mem text hlater, hc⟩

/-- Each text of a printed list is printed. -/
theorem PrintedAll.exists_of_mem {texts : List String} {ts : List Literal} (h : PrintedAll texts ts)
    {text : String} (hmem : text ∈ texts) : ∃ t, Printed text t := by
  induction h with
  | nil => cases hmem
  | cons head tail ih =>
      rcases List.mem_cons.mp hmem with rfl | hmem
      · exact ⟨_, head⟩
      · exact ih hmem

/-- A printed list stands in one line. -/
theorem PrintedAll.inline {texts : List String} {ts : List Literal} (h : PrintedAll texts ts) :
    ∀ c ∈ itemChars texts, isInline c = true := by
  intro c hc
  rcases mem_itemChars hc with rfl | ⟨text, hmem, hc⟩
  · decide
  · obtain ⟨t, hprinted⟩ := h.exists_of_mem hmem
    exact hprinted.inline c hc

/-- Printed texts in brackets are printed as a list. -/
theorem PrintedAll.bracketed {texts : List String} {ts : List Literal} (h : PrintedAll texts ts)
    (hne : texts ≠ []) : Printed (bracketed texts) (.list ts) := by
  have hchars := toList_bracketed texts
  refine ⟨⟨'[', _, hchars, rfl, by decide⟩, fun c hc => ?_, fun bound rest hbound _ => ?_⟩
  · rw [hchars, List.mem_cons, List.mem_append, List.mem_singleton] at hc
    rcases hc with rfl | hc | rfl
    · decide
    · exact h.inline c hc
    · decide
  obtain ⟨b, rfl⟩ : ∃ b, bound = b + 1 := ⟨bound - 1, by omega⟩
  rw [hchars, List.length_cons, List.length_append, List.length_singleton] at hbound
  have hitems := h.readItems hne rest (by omega : (itemChars texts).length + 1 < b)
  obtain ⟨c, cs, hcs, hblank, hbracket⟩ : ∃ c cs, itemChars texts ++ ']' :: rest = c :: cs ∧
      isAsciiBlank c = false ∧ c ≠ ']' := by
    cases h with
    | nil => exact absurd rfl hne
    | @cons text t texts ts hhead htail =>
        obtain ⟨c, cs, hcs, hc⟩ := hhead.head
        cases texts with
        | nil => exact ⟨c, cs ++ ']' :: rest, by simp [itemChars, hcs], hc⟩
        | cons text' texts =>
            exact ⟨c, _, by rw [itemChars_cons_cons, hcs, List.cons_append, List.cons_append], hc⟩
  rw [hcs] at hitems
  rw [hchars, List.cons_append, List.append_assoc, List.singleton_append, hcs,
    readValue_open hblank hbracket, hitems]
  rfl

/-- A list in brackets has no blanks around it. -/
theorem trim_bracketed (texts : List String) :
    trim (bracketed texts).toList = (bracketed texts).toList := by
  rw [toList_bracketed, ← List.cons_append]
  refine trim_of_ends ?_ ?_
  · intro c hc
    obtain rfl := Option.some.inj hc
    rfl
  · intro c hc
    rw [List.getLast?_append, List.getLast?_singleton] at hc
    obtain rfl := Option.some.inj hc
    decide

/-- A printed list is read back. -/
theorem PrintedAll.parse {texts : List String} {ts : List Literal} (h : PrintedAll texts ts)
    (hne : texts ≠ []) : Literal.parse (RobotCell.bracketed texts) = .ok (.list ts) :=
  (h.bracketed hne).parse (trim_bracketed texts)

/-- A record that starts with a truth value is read as a list that starts with it, whatever
follows. -/
theorem parse_bracketed_flag {b : Bool} {text : String} {texts : List String} {t : Literal}
    (h : Literal.parse (bracketed (flagText b :: text :: texts)) = .ok t) :
    ∃ ts, t = .list (.bool b :: ts) := by
  let chars := (flagText b).toList ++ ',' :: (itemChars (text :: texts) ++ [']'])
  have hchars : (bracketed (flagText b :: text :: texts)).toList = '[' :: chars := by
    rw [toList_bracketed, itemChars_cons_cons, List.append_assoc]
    rfl
  have hbody : literalBody ('[' :: chars) = '[' :: chars := by
    rw [← hchars]
    refine literalBody_of_trim (trim_bracketed _) fun hlast => ?_
    rw [toList_bracketed, ← List.cons_append, List.getLast?_append, List.getLast?_singleton] at hlast
    cases hlast
  obtain ⟨rest, hread, -⟩ := parse_eq_ok_iff.mp h
  rw [hchars, hbody] at hread
  obtain ⟨c, cs, hcs, hblank, hclose⟩ := (printed_flagText b).head
  -- one step of the bound is for the list, and one for its first item
  obtain ⟨bound, hbound⟩ : ∃ bound, readBound ('[' :: chars) = bound + 2 :=
    ⟨2 * ('[' :: chars).length, rfl⟩
  have hfirst : readValue bound chars = .ok (.bool b, ',' :: (itemChars (text :: texts) ++ [']'])) :=
    (printed_flagText b).reads bound _ (by simp [readBound, chars] at hbound; omega)
      (stops_cons (by decide))
  have hopen : readValue (bound + 2) ('[' :: chars) =
      (readItems (bound + 1) chars).map fun (items, rest) => (.list items, rest) := by
    have hcons : chars = c :: (cs ++ ',' :: (itemChars (text :: texts) ++ [']'])) := by
      simp only [chars, hcs, List.cons_append]
    rw [hcons]
    exact readValue_open hblank hclose
  rw [hbound, hopen] at hread
  cases hitems : readItems (bound + 1) chars with
  | error stop =>
      rw [hitems] at hread
      cases hread
  | ok read =>
      obtain ⟨ts, more⟩ := read
      rw [hitems] at hread
      cases hread
      obtain ⟨later, rfl⟩ := readItems_first hfirst hitems
      exact ⟨later, rfl⟩

/-! ## Groups of numbers -/

/-- The numbers as they stand in a literal. -/
abbrev unsigned {n : Nat} (v : Vector Binary64 n) : Vector Binary64 n := v.map Binary64.dropZeroSign

/-- Numbers are printed as a list, without the signs of zeros. -/
theorem printed_numbersText {n : Nat} (v : Vector Binary64 (n + 1)) :
    Printed (numbersText v.toList) (.list (v.toList.map fun x => .num x.dropZeroSign)) := by
  refine (PrintedAll.map printed_numberText v.toList).bracketed ?_
  intro hnil
  have := congrArg List.length hnil
  simp at this

/-- A list of numbers is read as numbers. -/
theorem mapM_num? {α : Type} (f : α → Binary64) (as : List α) :
    (as.map fun a => Literal.num (f a)).mapM Literal.num? = some (as.map f) := by
  induction as with
  | nil => rfl
  | cons a as ih =>
      rw [List.map_cons, List.mapM_cons, ih]
      rfl

/-- A list of nothing but numbers. -/
theorem numbers?_map {α : Type} {n : Nat} (f : α → Binary64) (v : Vector α n) :
    (Literal.list (v.toList.map fun a => .num (f a))).numbers? n = some (v.map f) := by
  have hlen : (v.toList.map f).length = n := by simp
  simp only [Literal.numbers?, Literal.items?, mapM_num?, hlen, dif_pos]
  congr 1
  refine Vector.toArray_inj.mp (Array.ext' ?_)
  simp [Vector.toList]

/-! ## Arm configurations -/

/-- Digits after an optional minus are a whole number. -/
theorem ofChars?_natDigits (negative : Bool) {n : Nat} (h : n < significandLimit) :
    Binary64.ofChars? ((if negative then ['-'] else []) ++ natDigits n) =
      some (.finite negative (n * unitsPerOne) (whole_lt_unitsLimit h) (onGrid_whole h)) := by
  have hspan : spanSign ((if negative then ['-'] else []) ++ natDigits n) =
      (negative, natDigits n) := by
    cases negative with
    | true => rfl
    | false =>
        refine spanSign_of_ne ?_ ?_ <;>
        · rintro c hc rfl
          exact absurd (isDigit_of_mem_natDigits hc) (by decide)
  have hmagnitude : readMagnitude? negative (natDigits n) = some ⟨negative, n, 0⟩ := by
    rw [readMagnitude?_digits (natDigits_ne_nil n) fun c hc => isDigit_of_mem_natDigits hc,
      digitsValue_natDigits]
  unfold Binary64.ofChars?
  simp only [hspan, hmagnitude, ofDecimal_nat negative h]

/-- A whole number of units is read as that number. -/
theorem toInt?_whole (negative : Bool) {n : Nat} (h : n < significandLimit) :
    Binary64.toInt? (.finite negative (n * unitsPerOne) (whole_lt_unitsLimit h) (onGrid_whole h)) =
      some (if negative then -(n : Int) else n) := by
  simp [Binary64.toInt?, Nat.mul_div_cancel n unitsPerOne_pos]

/-- The text of an integer is its digits after an optional minus. -/
theorem toList_toString_int (i : Int) :
    (toString i).toList = (if decide (i < 0) then ['-'] else []) ++ natDigits i.natAbs := by
  cases i with
  | ofNat n =>
      have hsign : decide (Int.ofNat n < 0) = false := by simp
      rw [hsign]
      exact Nat.toList_repr
  | negSucc n =>
      have hsign : decide (Int.negSucc n < 0) = true := by simp [Int.negSucc_lt_zero]
      rw [hsign]
      show ("-" ++ (n + 1).repr).toList = _
      rw [String.toList_append, Nat.toList_repr]
      rfl

/-- A number that a significand has room for is exact. -/
theorem ofInt_of_lt {i : Int} (h : i.natAbs < significandLimit) :
    Binary64.ofInt i =
      .finite (decide (i < 0)) (i.natAbs * unitsPerOne) (whole_lt_unitsLimit h) (onGrid_whole h) := by
  have hratio := @Binary64.ofRatio_of_onGrid (decide (i < 0)) _ 1 Nat.one_pos
    (whole_lt_unitsLimit h) (onGrid_whole h)
  rwa [Nat.mul_one] at hratio

/-- The text of an integer of at most 53 binary digits is read as the integer. -/
theorem printed_intText {i : Int} (h : i.natAbs < significandLimit) :
    Printed (toString i) (.num (.ofInt i)) := by
  have hread := ofChars?_natDigits (decide (i < 0)) h
  rw [← toList_toString_int, ← ofInt_of_lt h] at hread
  refine printed_scalar (fun c hc => ?_) (scalarValue?_of_ofChars? hread)
  rw [toList_toString_int] at hc
  rcases List.mem_append.mp hc with hsign | hdigit
  · split at hsign
    · obtain rfl := List.mem_singleton.mp hsign
      decide
    · cases hsign
  · exact isScalarChar_of_isDigit (isDigit_of_mem_natDigits hdigit)

/-- A quadrant is a number that a significand has room for. -/
theorem natAbs_toInt_lt (q : Int32) : q.toInt.natAbs < significandLimit := by
  have hlow : -2147483648 ≤ q.toInt := q.le_toInt
  have hhigh : q.toInt < 2147483648 := q.toInt_lt
  exact Nat.lt_of_le_of_lt (by omega : q.toInt.natAbs ≤ 2147483648) (by decide)

/-- The text of a quadrant is read as a number that is the quadrant. -/
theorem printed_quadrantText (q : Int32) :
    ∃ x, Printed (quadrantText q) (.num x) ∧ quadrant? x = some q := by
  have hlow : -2147483648 ≤ q.toInt := q.le_toInt
  have hhigh : q.toInt < 2147483648 := q.toInt_lt
  have hvalue : (if decide (q.toInt < 0) then -(q.toInt.natAbs : Int) else q.toInt.natAbs) =
      q.toInt := by
    split <;> simp_all only [decide_eq_true_eq] <;> omega
  refine ⟨_, printed_intText (natAbs_toInt_lt q), ?_⟩
  rw [ofInt_of_lt (natAbs_toInt_lt q), quadrant?, toInt?_whole _ (natAbs_toInt_lt q), hvalue]
  simp only
  rw [if_pos (by omega), Int32.ofInt_toInt]

namespace ArmConfiguration

/-- A configuration is read back as it is. -/
theorem printed_literal (c : ArmConfiguration) :
    ∃ t, Printed c.literal t ∧ ofLiteral? t = some c := by
  obtain ⟨x1, hx1, h1⟩ := printed_quadrantText c.cf1
  obtain ⟨x4, hx4, h4⟩ := printed_quadrantText c.cf4
  obtain ⟨x6, hx6, h6⟩ := printed_quadrantText c.cf6
  obtain ⟨xx, hxx, hx⟩ := printed_quadrantText c.cfx
  refine ⟨_, (PrintedAll.cons hx1 (.cons hx4 (.cons hx6 (.cons hxx .nil)))).bracketed (by simp), ?_⟩
  have hnumbers : (Literal.list [.num x1, .num x4, .num x6, .num xx]).numbers? 4 =
      some #v[x1, x4, x6, xx] := rfl
  simp [ofLiteral?, hnumbers, h1, h4, h6, hx]

end ArmConfiguration

/-! ## External axes -/

namespace ExternalAxes

/-- The axes as a literal has them: those at or above the mark are not in use. -/
def asWritten (axes : ExternalAxes) : ExternalAxes :=
  axes.map fun axis => axis.bind fun x => axis? x.dropZeroSign

/-- The number that stands for an axis. -/
def axisNumber : Option Binary64 → Binary64
  | some x => x.dropZeroSign
  | none => unusedAxis

/-- An axis is printed as its number, or as the mark of an unused one. -/
theorem printed_axisText (axis : Option Binary64) :
    Printed (axisText axis) (.num (axisNumber axis)) := by
  cases axis with
  | some x => exact printed_numberText x
  | none =>
      have hread : Binary64.ofChars? "9E+09".toList = some unusedAxis := by decide +kernel
      exact printed_scalar (List.all_eq_true.mp (by decide)) (scalarValue?_of_ofChars? hread)

/-- The number of an axis is read as that axis, unless it is the mark. -/
theorem axis?_axisNumber (axis : Option Binary64) :
    axis? (axisNumber axis) = axis.bind fun x => axis? x.dropZeroSign := by
  cases axis with
  | some x => rfl
  | none => exact if_pos (by decide +kernel)

/-- External axes are read back as they are written. -/
theorem printed_literal (axes : ExternalAxes) :
    ∃ t, Printed axes.literal t ∧ ofLiteral? t = some axes.asWritten := by
  have hne : axes.toList.map axisText ≠ [] := by
    intro hnil
    have := congrArg List.length hnil
    simp at this
  refine ⟨_, (PrintedAll.map printed_axisText axes.toList).bracketed hne, ?_⟩
  rw [ofLiteral?, numbers?_map, Option.map_some, Vector.map_map]
  exact congrArg some (Vector.map_congr_left fun axis _ => axis?_axisNumber axis)

end ExternalAxes

/-! ## Targets -/

/-- The frame of a pose as a literal has it: without the signs of zeros. -/
def Pose.asWritten (p : Pose) : Pose where
  position := unsigned p.position
  orientation := unsigned p.orientation
  config := p.config
  external := p.external.asWritten

/-- The groups of a pose are printed, and read as the pose that they show. -/
theorem Pose.printed_groups (p : Pose) :
    ∃ ts, PrintedAll [numbersText p.position.toList, numbersText p.orientation.toList,
        p.config.literal, ExternalAxes.literal p.external] ts ∧
      ∀ text, Pose.ofLiteral text (.list ts) = .ok p.asWritten := by
  obtain ⟨c, hc, hconfig⟩ := p.config.printed_literal
  obtain ⟨e, he, hexternal⟩ := p.external.printed_literal
  refine ⟨_, .cons (printed_numbersText p.position)
    (.cons (printed_numbersText p.orientation) (.cons hc (.cons he .nil))), fun text => ?_⟩
  simp only [Pose.ofLiteral, Literal.items?, numbers?_map, hconfig, hexternal]
  rfl

/-- **The literal of a pose reads back** as the pose that it shows. -/
theorem Pose.parse_literal (p : Pose) : Pose.parse p.literal = .ok p.asWritten := by
  obtain ⟨ts, hprinted, hread⟩ := p.printed_groups
  rw [Pose.parse, Pose.literal, hprinted.parse (by simp)]
  exact hread _

def JointPose.asWritten (p : JointPose) : JointPose where
  joints := unsigned p.joints
  external := p.external.asWritten

/-- A joint pose is printed as its two groups and read back from them. -/
theorem JointPose.printed_groups (p : JointPose) :
    ∃ ts, PrintedAll [numbersText p.joints.toList, ExternalAxes.literal p.external] ts ∧
      ∀ text, JointPose.ofLiteral text (.list ts) = .ok p.asWritten := by
  obtain ⟨e, he, hexternal⟩ := p.external.printed_literal
  refine ⟨_, .cons (printed_numbersText p.joints) (.cons he .nil), fun text => ?_⟩
  simp only [JointPose.ofLiteral, Literal.items?, numbers?_map, hexternal]
  rfl

/-- **The literal of a joint pose reads back** as the joint pose that it shows. -/
theorem JointPose.parse_literal (p : JointPose) : JointPose.parse p.literal = .ok p.asWritten := by
  obtain ⟨ts, hprinted, hread⟩ := p.printed_groups
  rw [JointPose.parse, JointPose.literal, hprinted.parse (by simp)]
  exact hread _

end RobotCell
