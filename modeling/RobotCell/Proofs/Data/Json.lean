import Mathlib.Data.List.DropRight
import Mathlib.Tactic.SplitIfs
import RobotCell.Data.Json
import RobotCell.Proofs.Data.Overlay
import RobotCell.Proofs.Number.ReadBack

/-!
# RobotCell.Proofs.Data.Json

Data written as JSON is read back.

A string is read back whatever its characters are (`readChars_quoted`), since the number of a
control character is no part of a surrogate pair.  A value is read from its text whatever follows,
as long as a number ends there (`ReadsBack`): scalars in one step, lists and tables entry by entry.
The bound of a reader is never less than the length of what it has yet to read, and each reader it
calls has at least one character less to read.  Data without fractions, in whose tables no name
stands twice, is read back from its text (`parse?_pretty`).
-/

namespace RobotCell.Json

/-! ## Strings -/

/-- An escape with a single letter. -/
theorem readChars_letter {x c : Char} {tail : List Char} {r : List Char × List Char}
    (hx : escaped? x = some c) (h : readChars tail = some r) :
    readChars ('\\' :: x :: tail) = some (c :: r.1, r.2) := by
  have hu : x ≠ 'u' := by
    rintro rfl
    cases hx
  rw [readChars]
  · simp only [hx, h, Option.map_some]
  all_goals
    intros
    exact hu ‹_›

/-- An escape that is read has four hexadecimal digits. -/
theorem hexUnit?_of_readChars {a b c d : Char} {rest : List Char} {r : List Char × List Char}
    (h : readChars ('\\' :: 'u' :: a :: b :: c :: d :: rest) = some r) :
    ∃ unit, hexUnit? a b c d = some unit := by
  cases hunit : hexUnit? a b c d with
  | some unit => exact ⟨unit, rfl⟩
  | none =>
      have hnone : readChars ('\\' :: 'u' :: a :: b :: c :: d :: rest) = none := by
        by_cases hpair : ∃ e f g i more, rest = '\\' :: 'u' :: e :: f :: g :: i :: more
        · obtain ⟨e, f, g, i, more, rfl⟩ := hpair
          rw [readChars, hunit]
        · rw [readChars, hunit]
          exact fun e f g i more hrest => hpair ⟨e, f, g, i, more, hrest⟩
      cases hnone.symm.trans h

/-- A control character is no surrogate, whatever follows its escape. -/
theorem readChars_unit {a b c d : Char} {tail : List Char} {r : List Char × List Char} {n : Nat}
    (hunit : hexUnit? a b c d = some n) (hn : n < 32) (h : readChars tail = some r) :
    readChars ('\\' :: 'u' :: a :: b :: c :: d :: tail) = some (Char.ofNat n :: r.1, r.2) := by
  have hvalid : n.isValidChar := .inl (by omega)
  by_cases hpair : ∃ e f g i more, tail = '\\' :: 'u' :: e :: f :: g :: i :: more
  · obtain ⟨e, f, g, i, more, rfl⟩ := hpair
    obtain ⟨low, hlow⟩ := hexUnit?_of_readChars h
    have hsingle : surrogatePair? n low = none := if_neg (by omega)
    rw [readChars, hunit, hlow]
    simp only [hsingle, if_pos hvalid, h, Option.map_some]
  · rw [readChars]
    · simp only [hunit, if_pos hvalid, h, Option.map_some]
    · exact fun e f g i more htail => hpair ⟨e, f, g, i, more, htail⟩

/-- The four digits of a control character are read back. -/
theorem hexUnit?_of_lt :
    ∀ n < 32, hexUnit? '0' '0' (hexChar (n / 16)) (hexChar (n % 16)) = some n := by decide

/-- A character is escaped by a letter or by its number, or it stands for itself. -/
theorem escapeChar_cases (c : Char) :
    (∃ x, escaped? x = some c ∧ escapeChar c = ['\\', x]) ∨
      (c.toNat < 32 ∧ escapeChar c =
        ['\\', 'u', '0', '0', hexChar (c.toNat / 16), hexChar (c.toNat % 16)]) ∨
      (32 ≤ c.toNat ∧ c ≠ '"' ∧ c ≠ '\\' ∧ escapeChar c = [c]) := by
  unfold escapeChar
  split_ifs with hquote hbackslash hn hr ht hb hf hcontrol
  · exact .inl ⟨'"', (congrArg some hquote).symm, rfl⟩
  · exact .inl ⟨'\\', (congrArg some hbackslash).symm, rfl⟩
  · exact .inl ⟨'n', (congrArg some hn).symm, rfl⟩
  · exact .inl ⟨'r', (congrArg some hr).symm, rfl⟩
  · exact .inl ⟨'t', (congrArg some ht).symm, rfl⟩
  · exact .inl ⟨'b', (congrArg some hb).symm, rfl⟩
  · exact .inl ⟨'f', (congrArg some hf).symm, rfl⟩
  · exact .inr (.inl ⟨hcontrol, rfl⟩)
  · exact .inr (.inr ⟨Nat.not_lt.mp hcontrol, hquote, hbackslash, rfl⟩)

/-- A character is read back from its escape. -/
theorem readChars_escapeChar (c : Char) {tail : List Char} {r : List Char × List Char}
    (h : readChars tail = some r) : readChars (escapeChar c ++ tail) = some (c :: r.1, r.2) := by
  rcases escapeChar_cases c with
    ⟨x, hx, heq⟩ | ⟨hcontrol, heq⟩ | ⟨hprint, hquote, hbackslash, heq⟩
  · rw [heq]
    exact readChars_letter hx h
  · have hunit := readChars_unit (hexUnit?_of_lt _ hcontrol) hcontrol h
    rw [Char.ofNat_toNat] at hunit
    rwa [heq]
  · have hplain : ¬(c.toNat < 32 ∨ c = '\\') := by simp [hprint, hbackslash]
    rw [heq, List.singleton_append, readChars]
    · simp only [if_neg hplain, h, Option.map_some]
    · exact hquote
    all_goals
      intros
      exact hbackslash ‹_›

/-- A string is read up to the quote that closes it. -/
theorem readChars_quoted (cs rest : List Char) :
    readChars (cs.flatMap escapeChar ++ '"' :: rest) = some (cs, rest) := by
  induction cs with
  | nil => rw [List.flatMap_nil, List.nil_append, readChars]
  | cons c cs ih =>
      rw [List.flatMap_cons, List.append_assoc]
      exact readChars_escapeChar c ih

/-! ## Numbers -/

/-- A number that is not zero does not start with a zero. -/
theorem exists_natDigits_eq_cons {n : Nat} (h : 0 < n) :
    ∃ c rest, natDigits n = c :: rest ∧ c ≠ '0' := by
  induction n using Nat.strongRecOn with
  | _ n ih =>
    rcases Nat.lt_or_ge n 10 with hlt | hle
    · have hdigit : ∀ d < 10, 0 < d → d.digitChar ≠ '0' := by decide
      exact ⟨_, [], Nat.toDigits_of_lt_base hlt, hdigit n hlt h⟩
    · obtain ⟨c, rest, hdigits, hc⟩ := ih (n / 10) (by omega) (by omega)
      refine ⟨c, rest ++ [(n % 10).digitChar], ?_, hc⟩
      rw [natDigits, Nat.toDigits_of_base_le (by decide) hle]
      rw [natDigits] at hdigits
      rw [hdigits, List.cons_append]

/-- The digits of a number are read as a whole number. -/
theorem wholeDigits_natDigits (n : Nat) : wholeDigits (natDigits n) = true := by
  rcases Nat.eq_zero_or_pos n with rfl | hpos
  · rfl
  · obtain ⟨c, rest, hdigits, hc⟩ := exists_natDigits_eq_cons hpos
    rw [hdigits, wholeDigits]
    · simpa using hc
    · exact fun h _ => hc h

/-- The digits of a word are an integer. -/
theorem number?_natDigits {n : Nat} (h : n < wordLimit) :
    number? (natDigits n) = some (.integer n) := by
  have hdigits : ∀ c ∈ natDigits n, c.isDigit = true := fun c hc => isDigit_of_mem_natDigits hc
  unfold wordLimit at h
  have hrange : ¬((n : Int) < -9223372036854775808) ∧ ¬(18446744073709551615 < (n : Int)) := by
    omega
  unfold number?
  split
  rename_i negative magnitude hsign
  have hpair : false = negative ∧ natDigits n = magnitude := by
    split at hsign
    · rename_i rest hminus
      have hdigit : '-'.isDigit = true := hdigits _ (hminus ▸ List.mem_cons_self)
      cases hdigit
    · exact Prod.mk.inj hsign
  obtain ⟨rfl, rfl⟩ := hpair
  simp only [spanDigits_digits hdigits, wholeDigits_natDigits, digitsValue_natDigits, fractionFits]
  simp [hrange]

/-! ## Blanks -/

/-- A line break with its indentation is space. -/
theorem isSpace_of_mem_lineBreak {depth : Nat} {c : Char} (h : c ∈ (lineBreak depth).toList) :
    isSpace c = true := by
  simp only [lineBreak, String.toList_append, String.toList_ofList, List.mem_append] at h
  rcases h with hfeed | hindent
  · obtain rfl := List.mem_singleton.mp hfeed
    rfl
  · obtain ⟨-, rfl⟩ := List.mem_replicate.mp hindent
    rfl

/-- Space before something else is passed over. -/
theorem skipSpace_append {gap : List Char} (h : ∀ c ∈ gap, isSpace c = true) (cs : List Char) :
    skipSpace (gap ++ cs) = skipSpace cs :=
  List.dropWhile_append_of_pos h

/-- A line break is blank with its indent. -/
theorem skipSpace_lineBreak (depth : Nat) (cs : List Char) :
    skipSpace ((lineBreak depth).toList ++ cs) = skipSpace cs :=
  skipSpace_append (fun _ hc => isSpace_of_mem_lineBreak hc) cs

/-- Nothing is passed over before what is no space. -/
theorem skipSpace_cons {c : Char} (h : isSpace c = false) (cs : List Char) :
    skipSpace (c :: cs) = c :: cs :=
  List.dropWhile_cons_of_neg (by simp [h])

/-- Blanks before a value are passed over. -/
theorem readValue_of_skipSpace {cs cs' : List Char} (h : skipSpace cs = skipSpace cs')
    (bound : Nat) : readValue bound cs = readValue bound cs' := by
  cases bound with
  | zero => rw [readValue, readValue]
  | succ bound => rw [readValue, readValue, h]

/-- Fields are read the same whatever space there is before them. -/
theorem readFields_of_skipSpace {cs cs' : List Char} (h : skipSpace cs = skipSpace cs')
    (bound : Nat) (before : Fields) : readFields bound before cs = readFields bound before cs' := by
  cases bound with
  | zero => rw [readFields, readFields]
  | succ bound => rw [readFields, readFields, h]

/-- Items are read the same whatever space there is before them. -/
theorem readItems_of_skipSpace {cs cs' : List Char} (h : skipSpace cs = skipSpace cs')
    (bound : Nat) : readItems bound cs = readItems bound cs' := by
  cases bound with
  | zero => rw [readItems, readItems]
  | succ bound => rw [readItems, readItems, readValue_of_skipSpace h]

/-! ## Values -/

/-- A text that a number does not go on into. -/
def EndsNumber (rest : List Char) : Prop := ∀ c ∈ rest.head?, isNumberChar c = false

/-- A number may end at a line break. -/
theorem endsNumber_lineBreak (depth : Nat) (rest : List Char) :
    EndsNumber ((lineBreak depth).toList ++ rest) := by
  intro c hc
  rw [lineBreak, String.toList_append, List.append_assoc] at hc
  obtain rfl := Option.some.inj hc
  rfl

/-- A number may end at any character that cannot go on with it. -/
theorem endsNumber_cons {c : Char} (h : isNumberChar c = false) (rest : List Char) :
    EndsNumber (c :: rest) := fun _ hc => Option.some.inj hc ▸ h

/-- The text of a value is read back, whatever the value is followed by. -/
def ReadsBack (d : Datum) : Prop :=
  ∀ depth bound rest, (prettyAt depth d).toList.length ≤ bound → EndsNumber rest →
    readValue bound ((prettyAt depth d).toList ++ rest) = some (d, rest)

/-- A scalar is read in one step. -/
theorem readsBack_of_compact {d : Datum} {text : List Char}
    (htext : ∀ depth, (prettyAt depth d).toList = text) (hne : text ≠ [])
    (h : ∀ bound rest, EndsNumber rest → readValue (bound + 1) (text ++ rest) = some (d, rest)) :
    ReadsBack d := by
  intro depth bound rest hbound hrest
  rw [htext] at hbound ⊢
  obtain ⟨bound, rfl⟩ : ∃ n, bound = n + 1 :=
    Nat.exists_eq_add_one.mpr (Nat.lt_of_lt_of_le (List.length_pos_iff.mpr hne) hbound)
  exact h bound rest hrest

theorem readsBack_null : ReadsBack .null := by
  have htext (depth : Nat) : (prettyAt depth .null).toList = ['n', 'u', 'l', 'l'] := by
    simp [prettyAt, compact]
  refine readsBack_of_compact htext (by decide) fun bound rest _ => ?_
  simp [readValue, skipSpace, isSpace, readScalar]

/-- A quoted text is its characters between quotes, some of them escaped. -/
theorem quote_toList (s : String) :
    (quote s).toList = '"' :: (s.toList.flatMap escapeChar ++ ['"']) := by
  simp [quote]

/-- A text is read back, whatever its characters are. -/
theorem readsBack_string (s : String) : ReadsBack (.string s) := by
  refine readsBack_of_compact (fun _ => quote_toList s) (List.cons_ne_nil _ _)
    fun bound rest _ => ?_
  rw [List.cons_append, List.append_assoc, List.singleton_append, readValue,
    skipSpace_cons (by decide)]
  simp only [readChars_quoted, Option.map_some, String.ofList_toList]

theorem ne_of_isDigit {c d : Char} (hc : c.isDigit = true) (hd : d.isDigit = false) : c ≠ d := by
  rintro rfl
  cases hc.symm.trans hd

/-- A text that starts with a digit is no word. -/
theorem readScalar_of_isDigit {c : Char} (hc : c.isDigit = true) (cs : List Char) :
    readScalar (c :: cs) = (number? ((c :: cs).takeWhile isNumberChar)).map fun d =>
      (d, (c :: cs).dropWhile isNumberChar) := by
  have hn := ne_of_isDigit hc (by decide : 'n'.isDigit = false)
  have ht := ne_of_isDigit hc (by decide : 't'.isDigit = false)
  have hf := ne_of_isDigit hc (by decide : 'f'.isDigit = false)
  rw [readScalar]
  all_goals
    intro _ heq
    injection heq
    contradiction

/-- A text that starts with a digit is neither a list nor a table nor a string. -/
theorem readValue_of_isDigit {c : Char} (hc : c.isDigit = true) (cs : List Char) (bound : Nat) :
    readValue (bound + 1) (c :: cs) = readScalar (c :: cs) := by
  have hlist := ne_of_isDigit hc (by decide : '['.isDigit = false)
  have htable := ne_of_isDigit hc (by decide : '\x7b'.isDigit = false)
  have hquote := ne_of_isDigit hc (by decide : '"'.isDigit = false)
  have hspace : isSpace c = false := by
    simp [isSpace, ne_of_isDigit hc (by decide : ' '.isDigit = false),
      ne_of_isDigit hc (by decide : '\t'.isDigit = false),
      ne_of_isDigit hc (by decide : '\n'.isDigit = false),
      ne_of_isDigit hc (by decide : '\r'.isDigit = false)]
  rw [readValue, skipSpace_cons hspace]
  split
  · exact absurd (List.cons.inj ‹_›).1 hlist
  · exact absurd (List.cons.inj ‹_›).1 htable
  · exact absurd (List.cons.inj ‹_›).1 hquote
  · rfl

/-- The digits of a word are read as that number. -/
theorem readScalar_natDigits {n : Nat} (h : n < wordLimit) {rest : List Char}
    (hrest : EndsNumber rest) : readScalar (natDigits n ++ rest) = some (.integer n, rest) := by
  have hnumber : ∀ c ∈ natDigits n, isNumberChar c = true := fun c hc => by
    simp [isNumberChar, isDigit_of_mem_natDigits hc]
  have htake : (natDigits n ++ rest).takeWhile isNumberChar = natDigits n := by
    rw [List.takeWhile_append_of_pos hnumber]
    cases rest with
    | nil => simp
    | cons c rest => simp [hrest c rfl]
  have hdrop : (natDigits n ++ rest).dropWhile isNumberChar = rest := by
    rw [List.dropWhile_append_of_pos hnumber]
    cases rest with
    | nil => rfl
    | cons c rest => simp [hrest c rfl]
  obtain ⟨c, digits, hdigits⟩ := List.exists_cons_of_ne_nil (natDigits_ne_nil n)
  have hc : c.isDigit = true := isDigit_of_mem_natDigits (hdigits ▸ List.mem_cons_self)
  have hscalar := readScalar_of_isDigit hc (digits ++ rest)
  rw [← List.cons_append, ← hdigits, htake, hdrop, number?_natDigits h] at hscalar
  exact hscalar

/-- A word is read back. -/
theorem readsBack_integer {n : Nat} (h : n < wordLimit) : ReadsBack (.integer n) := by
  refine readsBack_of_compact (fun _ => toList_toString n) (natDigits_ne_nil n)
    fun bound rest hrest => ?_
  rw [← readScalar_natDigits h hrest]
  obtain ⟨c, digits, hdigits⟩ := List.exists_cons_of_ne_nil (natDigits_ne_nil n)
  have hc : c.isDigit = true := isDigit_of_mem_natDigits (hdigits ▸ List.mem_cons_self)
  rw [hdigits]
  exact readValue_of_isDigit hc (digits ++ rest) bound

/-! ## Lists and tables -/

/-- Entries with a comma and a line break between them. -/
def entryChars (depth : Nat) (entries : List String) : List Char :=
  (("," ++ lineBreak depth).intercalate entries).toList

/-- A last entry has no comma behind it. -/
theorem entryChars_singleton (depth : Nat) (entry : String) :
    entryChars depth [entry] = entry.toList := by
  rw [entryChars, String.intercalate_singleton]

/-- Each other entry has a comma and a line break behind it. -/
theorem entryChars_cons_cons (depth : Nat) (entry next : String) (rest : List String) :
    entryChars depth (entry :: next :: rest) =
      entry.toList ++ ',' :: ((lineBreak depth).toList ++ entryChars depth (next :: rest)) := by
  simp [entryChars, String.intercalate_cons_cons]

/-- Entries stand on lines of their own between their brackets. -/
theorem block_toList {entries : List String} (h : entries ≠ []) (left right : String)
    (depth : Nat) :
    (block left right depth entries).toList = left.toList ++ ((lineBreak (depth + 1)).toList ++
      (entryChars (depth + 1) entries ++ ((lineBreak depth).toList ++ right.toList))) := by
  have hempty : entries.isEmpty = false := by simpa using h
  simp [block, hempty, entryChars]

/-- The items of a list are read one after the other. -/
theorem readItems_pretty {items : List Datum} (hitems : ∀ d ∈ items, ReadsBack d)
    (hne : items ≠ []) {depth outer bound : Nat} (rest : List Char)
    (hbound : (entryChars depth (prettyItems depth items)).length < bound) :
    readItems bound (entryChars depth (prettyItems depth items) ++
      ((lineBreak outer).toList ++ ']' :: rest)) = some (items, rest) := by
  induction items generalizing bound with
  | nil => exact absurd rfl hne
  | cons d items ih =>
      obtain ⟨bound, rfl⟩ : ∃ n, bound = n + 1 := Nat.exists_eq_add_one.mpr (by omega)
      obtain ⟨hd, hmore⟩ := List.forall_mem_cons.mp hitems
      cases items with
      | nil =>
          rw [prettyItems, prettyItems, entryChars_singleton] at hbound ⊢
          rw [readItems, hd depth bound _ (by omega) (endsNumber_lineBreak _ _)]
          simp only [skipSpace_lineBreak, skipSpace_cons (show isSpace ']' = false from rfl)]
      | cons next items =>
          rw [prettyItems, prettyItems, entryChars_cons_cons] at hbound ⊢
          rw [List.length_append, List.length_cons, List.length_append] at hbound
          have hlen : (entryChars depth (prettyItems depth (next :: items))).length < bound := by
            rw [prettyItems]
            omega
          have hrest := ih hmore (List.cons_ne_nil _ _) hlen
          rw [prettyItems] at hrest
          rw [List.append_assoc, List.cons_append, readItems,
            hd depth bound _ (by omega) (endsNumber_cons rfl _)]
          simp only [skipSpace_cons (show isSpace ',' = false from rfl), List.append_assoc]
          rw [readItems_of_skipSpace (skipSpace_lineBreak depth _), hrest]
          rfl

/-- A field of a new name is put behind the others. -/
theorem set_of_notMem {fields : Fields} {name : String} (h : name ∉ fields.map Prod.fst)
    (d : Datum) : fields.set name d = fields ++ [(name, d)] := by
  induction fields with
  | nil => rfl
  | cons f rest ih =>
      rw [List.map_cons, List.mem_cons, not_or] at h
      rw [Fields.set, if_neg (Ne.symm h.1), ih h.2, List.cons_append]

/-- What is read behind the value of a field: more fields after a comma, or the end of the table. -/
def readBehindField (bound : Nat) (fields : Fields) (cs : List Char) :
    Option (Fields × List Char) :=
  match skipSpace cs with
  | ',' :: rest => readFields bound fields rest
  | '\x7d' :: rest => some (fields, rest)
  | _ => none

/-- A field is read up to what ends its value. -/
theorem readFields_entry (name : String) {d : Datum} (hd : ReadsBack d) (before : Fields)
    {depth bound : Nat} {rest : List Char}
    (hbound : (quote name ++ ": " ++ prettyAt depth d).toList.length ≤ bound)
    (hrest : EndsNumber rest) :
    readFields (bound + 1) before ((quote name ++ ": " ++ prettyAt depth d).toList ++ rest) =
      readBehindField bound (before.set name d) rest := by
  have hentry : (quote name ++ ": " ++ prettyAt depth d).toList =
      '"' :: (name.toList.flatMap escapeChar ++ '"' :: ':' :: ' ' ::
        (prettyAt depth d).toList) := by
    simp [quote_toList]
  rw [hentry] at hbound ⊢
  simp only [List.length_cons, List.length_append] at hbound
  have hblank (cs : List Char) : skipSpace (' ' :: cs) = skipSpace cs := rfl
  have hvalue : readValue bound (' ' :: ((prettyAt depth d).toList ++ rest)) = some (d, rest) :=
    (readValue_of_skipSpace (hblank _) bound).trans (hd depth bound rest (by omega) hrest)
  simp only [List.cons_append, List.append_assoc]
  rw [readFields, skipSpace_cons (show isSpace '"' = false from rfl)]
  simp only [readChars_quoted, skipSpace_cons (show isSpace ':' = false from rfl), hvalue,
    String.ofList_toList]
  rfl

/-- The fields of a table are read one after the other, behind those read before. -/
theorem readFields_pretty {fields before : Fields} (hfields : ∀ f ∈ fields, ReadsBack f.2)
    (hnames : Fields.Distinct (before ++ fields)) (hne : fields ≠ []) {depth outer bound : Nat}
    (rest : List Char) (hbound : (entryChars depth (prettyFields depth fields)).length < bound) :
    readFields bound before (entryChars depth (prettyFields depth fields) ++
      ((lineBreak outer).toList ++ '\x7d' :: rest)) = some (before ++ fields, rest) := by
  induction fields generalizing before bound with
  | nil => exact absurd rfl hne
  | cons f fields ih =>
      obtain ⟨name, d⟩ := f
      obtain ⟨bound, rfl⟩ : ∃ n, bound = n + 1 := Nat.exists_eq_add_one.mpr (by omega)
      have hd : ReadsBack d := hfields (name, d) List.mem_cons_self
      have hmore := (List.forall_mem_cons.mp hfields).2
      have hnew : name ∉ before.map Prod.fst := by
        rw [Fields.Distinct, List.map_append, List.nodup_append] at hnames
        exact fun hmem => hnames.2.2 name hmem name (by simp) rfl
      cases fields with
      | nil =>
          rw [prettyFields, prettyFields, entryChars_singleton] at hbound ⊢
          rw [readFields_entry name hd before (by omega) (endsNumber_lineBreak _ _),
            readBehindField]
          simp only [skipSpace_lineBreak, skipSpace_cons (show isSpace '\x7d' = false from rfl),
            set_of_notMem hnew]
      | cons next fields =>
          rw [prettyFields, prettyFields, entryChars_cons_cons] at hbound ⊢
          rw [List.length_append, List.length_cons, List.length_append] at hbound
          have hnames' : Fields.Distinct (before ++ [(name, d)] ++ next :: fields) := by
            rwa [List.append_assoc]
          have hlen : (entryChars depth (prettyFields depth (next :: fields))).length < bound := by
            rw [prettyFields]
            omega
          have hrest := ih hmore hnames' (List.cons_ne_nil _ _) hlen
          rw [prettyFields] at hrest
          rw [List.append_assoc, List.cons_append,
            readFields_entry name hd before (by omega) (endsNumber_cons rfl _), readBehindField,
            skipSpace_cons (show isSpace ',' = false from rfl), set_of_notMem hnew,
            List.append_assoc]
          simp only
          rw [readFields_of_skipSpace (skipSpace_lineBreak depth _), hrest, List.append_assoc]
          rfl

/-! ## Documents -/

/-- Data whose text is read back as it is: its numbers are words, and no table has a name twice. -/
inductive Plain : Datum → Prop
  | null : Plain .null
  | string (s : String) : Plain (.string s)
  | integer {n : Nat} : n < wordLimit → Plain (.integer n)
  | list {items : List Datum} : (∀ d ∈ items, Plain d) → Plain (.list items)
  | table {fields : Fields} :
      fields.Distinct → (∀ f ∈ fields, Plain f.2) → Plain (.table fields)

theorem skipSpace_skipSpace (cs : List Char) : skipSpace (skipSpace cs) = skipSpace cs :=
  List.dropWhile_idempotent isSpace cs

/-- A closing bracket starts no item. -/
theorem readItems_closing (bound : Nat) (cs : List Char) : readItems bound (']' :: cs) = none := by
  cases bound with
  | zero => rw [readItems]
  | succ bound =>
      have hnone : readValue bound (']' :: cs) = none := by
        cases bound with
        | zero => rw [readValue]
        | succ bound =>
            have hnumber : number? [] = none := rfl
            simp [readValue, skipSpace, isSpace, readScalar, isNumberChar, hnumber]
      rw [readItems, hnone]

/-- Fields do not begin with a closing brace. -/
theorem readFields_closing (bound : Nat) (before : Fields) (cs : List Char) :
    readFields bound before ('\x7d' :: cs) = none := by
  cases bound with
  | zero => rw [readFields]
  | succ bound => simp [readFields, skipSpace, isSpace]

/-- A list is read when its items are. -/
theorem readValue_of_items {bound : Nat} {items : List Datum} {cs rest : List Char}
    (h : readItems bound cs = some (items, rest)) :
    readValue (bound + 1) ('[' :: cs) = some (.list items, rest) := by
  rw [readValue, skipSpace_cons (show isSpace '[' = false from rfl)]
  simp only
  split
  · rename_i closed hclosed
    have hsame : skipSpace cs = skipSpace (']' :: closed) := hclosed
    rw [readItems_of_skipSpace hsame, readItems_closing] at h
    cases h
  · rw [readItems_of_skipSpace (skipSpace_skipSpace cs), h, Option.map_some]

/-- Fields behind an opening brace are a table. -/
theorem readValue_of_fields {bound : Nat} {fields : Fields} {cs rest : List Char}
    (h : readFields bound [] cs = some (fields, rest)) :
    readValue (bound + 1) ('\x7b' :: cs) = some (.table fields, rest) := by
  rw [readValue, skipSpace_cons (show isSpace '\x7b' = false from rfl)]
  simp only
  split
  · rename_i closed hclosed
    have hsame : skipSpace cs = skipSpace ('\x7d' :: closed) := hclosed
    rw [readFields_of_skipSpace hsame, readFields_closing] at h
    cases h
  · rw [readFields_of_skipSpace (skipSpace_skipSpace cs), h, Option.map_some]

/-- A list or table without entries is its brackets, and otherwise it begins with one. -/
theorem readsBack_of_block {d : Datum} (left right : Char) (entries : Nat → List String)
    (htext : ∀ depth, prettyAt depth d =
      block (String.singleton left) (String.singleton right) depth (entries (depth + 1)))
    (hempty : ∀ depth bound rest, entries (depth + 1) = [] →
      readValue (bound + 1) (left :: right :: rest) = some (d, rest))
    (hread : ∀ depth bound rest, entries (depth + 1) ≠ [] →
      (entryChars (depth + 1) (entries (depth + 1))).length < bound →
        readValue (bound + 1) (left :: ((lineBreak (depth + 1)).toList ++
          (entryChars (depth + 1) (entries (depth + 1)) ++
            ((lineBreak depth).toList ++ right :: rest)))) = some (d, rest)) : ReadsBack d := by
  intro depth bound rest hbound _
  rw [htext] at hbound ⊢
  by_cases hne : entries (depth + 1) = []
  · have hbrackets : (block (String.singleton left) (String.singleton right) depth
        (entries (depth + 1))).toList = [left, right] := by
      simp [hne, block]
    rw [hbrackets] at hbound ⊢
    obtain ⟨bound, rfl⟩ : ∃ n, bound = n + 1 :=
      Nat.exists_eq_add_one.mpr (Nat.lt_of_lt_of_le (Nat.zero_lt_succ _) hbound)
    exact hempty depth bound rest hne
  · rw [block_toList hne] at hbound ⊢
    simp only [String.toList_singleton, List.length_append, List.length_cons, List.length_nil]
      at hbound
    obtain ⟨bound, rfl⟩ : ∃ n, bound = n + 1 := Nat.exists_eq_add_one.mpr (by omega)
    have hvalue := hread depth bound rest hne (by omega)
    simpa using hvalue

/-- A list is read back if each of its items is. -/
theorem readsBack_list {items : List Datum} (h : ∀ d ∈ items, ReadsBack d) :
    ReadsBack (.list items) := by
  have htext (depth : Nat) : prettyAt depth (.list items) =
      block "[" "]" depth (prettyItems (depth + 1) items) := by rw [prettyAt]
  refine readsBack_of_block '[' ']' (fun n => prettyItems n items) htext
    (fun depth bound rest hempty => ?_) fun depth bound rest hne hbound => readValue_of_items ?_
  · cases items with
    | nil => simp [readValue, skipSpace, isSpace]
    | cons d items => simp [prettyItems] at hempty
  · have hitems : items ≠ [] := by
      rintro rfl
      exact hne rfl
    rw [readItems_of_skipSpace (skipSpace_lineBreak _ _)]
    exact readItems_pretty h hitems rest hbound

/-- A table is read back if its names are distinct and each of its values is read back. -/
theorem readsBack_table {fields : Fields} (hnames : fields.Distinct)
    (h : ∀ f ∈ fields, ReadsBack f.2) : ReadsBack (.table fields) := by
  have htext (depth : Nat) : prettyAt depth (.table fields) =
      block "\x7b" "\x7d" depth (prettyFields (depth + 1) fields) := by rw [prettyAt]
  refine readsBack_of_block '\x7b' '\x7d' (fun n => prettyFields n fields) htext
    (fun depth bound rest hempty => ?_) fun depth bound rest hne hbound => readValue_of_fields ?_
  · cases fields with
    | nil => simp [readValue, skipSpace, isSpace]
    | cons f fields => simp [prettyFields] at hempty
  · have hfields : fields ≠ [] := by
      rintro rfl
      exact hne rfl
    rw [readFields_of_skipSpace (skipSpace_lineBreak _ _)]
    exact @readFields_pretty fields [] h hnames hfields _ _ _ rest hbound

/-- Plain data is read back. -/
theorem Plain.readsBack {d : Datum} (h : Plain d) : ReadsBack d := by
  induction h with
  | null => exact readsBack_null
  | string s => exact readsBack_string s
  | integer hn => exact readsBack_integer hn
  | list _ ih => exact readsBack_list ih
  | table hnames _ ih => exact readsBack_table hnames ih

/-- Plain data is read back from its text. -/
theorem parse?_pretty {d : Datum} (h : Plain d) : parse? (pretty d) = some d := by
  have hread := h.readsBack 0 (2 * (pretty d).toList.length + 2) [] (by rw [pretty]; omega)
    (fun _ hc => by cases hc)
  rw [List.append_nil] at hread
  rw [parse?]
  rw [pretty] at hread ⊢
  rw [hread]
  rfl

end RobotCell.Json
