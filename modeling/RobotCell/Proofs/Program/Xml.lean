import Mathlib.Data.List.Infix
import RobotCell.Data.Json
import RobotCell.Proofs.Motion.Grammar

/-!
# RobotCell.Proofs.Program.Xml

XML documents without a document type, as a grammar that relates texts to trees.

A document is a text of characters.  The encoding that it declares is a word in its first line: how
the characters become bytes when the text is stored, and whether these bytes are those of the
declared encoding, is not part of the grammar.

The grammar is that of XML 1.0.  Line ends are normalized first; then come the productions for
names, references, CDATA sections, comments, instructions and tags (`Content`, `Document`).
Comments and instructions leave no trace in the tree; a reference and each character of a CDATA
section is the character that it stands for.

A slash closes each element, so a text has at least as many slashes as its tree has elements
(`Content.sizes_le_count`).  When it has no more than these, what stands before a slash is known
(`append_cons_inj_of_count`).
-/

namespace RobotCell.Xml

/-! ## Characters -/

/-- The characters that a document may hold. -/
def isChar (c : Char) : Bool :=
  c == '\t' || c == '\n' || c == '\r' || (' ' ≤ c && c != '\uFFFE' && c != '\uFFFF')

/-- White space. -/
def isSpace (c : Char) : Bool := c == ' ' || c == '\t' || c == '\n' || c == '\r'

/-- The code points that may begin a name. -/
def nameStartRanges : List (Nat × Nat) :=
  [(0x3A, 0x3A), (0x41, 0x5A), (0x5F, 0x5F), (0x61, 0x7A), (0xC0, 0xD6), (0xD8, 0xF6),
    (0xF8, 0x2FF), (0x370, 0x37D), (0x37F, 0x1FFF), (0x200C, 0x200D), (0x2070, 0x218F),
    (0x2C00, 0x2FEF), (0x3001, 0xD7FF), (0xF900, 0xFDCF), (0xFDF0, 0xFFFD), (0x10000, 0xEFFFF)]

/-- The code points that may stand in a name. -/
def nameRanges : List (Nat × Nat) :=
  nameStartRanges ++ [(0x2D, 0x2E), (0x30, 0x39), (0xB7, 0xB7), (0x300, 0x36F), (0x203F, 0x2040)]

/-- A character of one of the ranges. -/
def isAmong (ranges : List (Nat × Nat)) (c : Char) : Bool :=
  ranges.any fun r => r.1 ≤ c.toNat && c.toNat ≤ r.2

/-- The names of elements, attributes and instructions. -/
structure IsName (name : List Char) : Prop where
  start : ∃ c ∈ name.head?, isAmong nameStartRanges c = true
  chars : ∀ c ∈ name, isAmong nameRanges c = true

instance (name : List Char) : Decidable (IsName name) :=
  decidable_of_iff (name.head?.any (isAmong nameStartRanges) = true ∧
      name.all (isAmong nameRanges) = true)
    ⟨fun h => ⟨(Option.any_eq_true ..).mp h.1, List.all_eq_true.mp h.2⟩,
      fun h => ⟨(Option.any_eq_true ..).mpr h.start, List.all_eq_true.mpr h.chars⟩⟩

/-- Nothing but white space. -/
def IsSpaces (cs : List Char) : Prop := ∀ c ∈ cs, isSpace c = true

/-- Every line end as a line feed. -/
def normalizeLineEnds : List Char → List Char
  | [] => []
  | c :: cs =>
    if c = '\r' then
      if cs.head? = some '\n' then normalizeLineEnds cs else '\n' :: normalizeLineEnds cs
    else c :: normalizeLineEnds cs

/-! ## References -/

/-- The entities that are known without a declaration. -/
def entities : List (String × Char) :=
  [("lt", '<'), ("gt", '>'), ("amp", '&'), ("apos", '\x27'), ("quot", '\x22')]

/-- A reference, and the character that it stands for. -/
inductive Refers : List Char → Char → Prop
  | entity {name : String} {c : Char} (h : (name, c) ∈ entities) :
      Refers ('&' :: (name.toList ++ [';'])) c
  | codePoint {mark : String} {base : Nat} {digits : List Char} {values : List Nat} {c : Char}
      (hbase : (mark, base) ∈ [("#", 10), ("#x", 16)]) (hne : digits ≠ [])
      (hvalues : digits.mapM Json.hexDigit? = some values) (hdigit : ∀ v ∈ values, v < base)
      (hcode : values.foldl (fun n v => base * n + v) 0 = c.toNat) (hchar : isChar c = true) :
      Refers ('&' :: (mark.toList ++ (digits ++ [';']))) c

/-! ## Tags -/

/-- A name, an equals sign and a literal, after white space. -/
inductive Assigns : List Char → List Char → List Char → Prop
  | intro {space name before after literal : List Char} {quote : Char} (hne : space ≠ [])
      (hspace : IsSpaces space) (hname : IsName name) (hbefore : IsSpaces before)
      (hafter : IsSpaces after) (hquote : quote = '\x22' ∨ quote = '\x27')
      (hliteral : quote ∉ literal) :
      Assigns (space ++ (name ++ (before ++ '=' :: (after ++ quote :: (literal ++ [quote])))))
        name literal

/-- What the literal of an attribute may hold. -/
inductive IsAttributeText : List Char → Prop
  | nil : IsAttributeText []
  | char {c : Char} {cs : List Char} (hchar : isChar c = true) (hmarkup : c ≠ '<' ∧ c ≠ '&')
      (h : IsAttributeText cs) : IsAttributeText (c :: cs)
  | reference {text cs : List Char} {c : Char} (href : Refers text c) (h : IsAttributeText cs) :
      IsAttributeText (text ++ cs)

/-- Attributes with their names, which differ. -/
inductive Attributes : List Char → List (List Char) → Prop
  | nil : Attributes [] []
  | cons {text name literal cs : List Char} {names : List (List Char)}
      (hassigns : Assigns text name literal) (hliteral : IsAttributeText literal)
      (hnew : name ∉ names) (h : Attributes cs names) : Attributes (text ++ cs) (name :: names)

/-- The start of a tag that opens an element, up to what ends the tag. -/
inductive TagHead : List Char → List Char → Prop
  | intro {name attributes space : List Char} {names : List (List Char)} (hname : IsName name)
      (hattributes : Attributes attributes names) (hspace : IsSpaces space) :
      TagHead ('<' :: (name ++ (attributes ++ space))) name

/-- A tag that closes an element. -/
inductive EndTag : List Char → List Char → Prop
  | intro {name space : List Char} (hname : IsName name) (hspace : IsSpaces space) :
      EndTag ('<' :: '/' :: (name ++ (space ++ ['>']))) name

/-! ## Content -/

/-- Comments and instructions. -/
inductive Ignored : List Char → Prop
  | comment {text : List Char} (hchars : ∀ c ∈ text, isChar c = true)
      (hdashes : ¬ "--".toList <:+: text ++ ['-']) :
      Ignored ("<!--".toList ++ (text ++ "-->".toList))
  | instruction {target text : List Char} (htarget : IsName target)
      (hreserved : target.map Char.toLower ≠ "xml".toList)
      (hspace : ∀ c ∈ text.head?, isSpace c = true) (hchars : ∀ c ∈ text, isChar c = true)
      (hend : ¬ "?>".toList <:+: text) :
      Ignored ("<?".toList ++ (target ++ (text ++ "?>".toList)))

/-- Markup that is no tag, and the characters that it stands for. -/
inductive Piece : List Char → List Char → Prop
  | reference {text : List Char} {c : Char} (h : Refers text c) : Piece text [c]
  | data {text : List Char} (hchars : ∀ c ∈ text, isChar c = true)
      (hend : ¬ "]]>".toList <:+: text) :
      Piece ("<![CDATA[".toList ++ (text ++ "]]>".toList)) text
  | ignored {text : List Char} (h : Ignored text) : Piece text []

/-- A part of a document's tree. -/
inductive Node where
  | char (c : Char)
  | element (name : List Char) (children : List Node)

/-- What stands between the tags of an element, and the nodes that it makes. -/
inductive Content : List Char → List Node → Prop
  | nil : Content [] []
  | char {c : Char} {cs : List Char} {nodes : List Node} (hchar : isChar c = true)
      (hmarkup : c ≠ '<' ∧ c ≠ '&') (hend : ¬ "]]>".toList <+: c :: cs) (h : Content cs nodes) :
      Content (c :: cs) (.char c :: nodes)
  | piece {text data cs : List Char} {nodes : List Node} (hpiece : Piece text data)
      (h : Content cs nodes) : Content (text ++ cs) (data.map .char ++ nodes)
  | empty {tag name cs : List Char} {nodes : List Node} (htag : TagHead tag name)
      (h : Content cs nodes) : Content (tag ++ '/' :: '>' :: cs) (.element name [] :: nodes)
  | element {tag name inner closing cs : List Char} {children nodes : List Node}
      (htag : TagHead tag name) (hinner : Content inner children) (hclosing : EndTag closing name)
      (h : Content cs nodes) :
      Content (tag ++ '>' :: (inner ++ (closing ++ cs))) (.element name children :: nodes)

/-! ## Documents -/

/-- The text of an element. -/
inductive Element : List Char → Node → Prop
  | empty {tag name : List Char} (htag : TagHead tag name) :
      Element (tag ++ ['/', '>']) (.element name [])
  | tagged {tag name inner closing : List Char} {children : List Node} (htag : TagHead tag name)
      (hinner : Content inner children) (hclosing : EndTag closing name) :
      Element (tag ++ '>' :: (inner ++ closing)) (.element name children)

/-- What may stand before and behind the root. -/
inductive Misc : List Char → Prop
  | nil : Misc []
  | space {c : Char} {cs : List Char} (hspace : isSpace c = true) (h : Misc cs) : Misc (c :: cs)
  | ignored {text cs : List Char} (hignored : Ignored text) (h : Misc cs) : Misc (text ++ cs)

/-- The versions that a declaration may name. -/
def IsVersion (literal : List Char) : Prop :=
  ∃ digits, literal = "1.".toList ++ digits ∧ digits ≠ [] ∧ ∀ c ∈ digits, c.isDigit = true

/-- The names that encodings may have. -/
def IsEncoding (literal : List Char) : Prop :=
  (∃ c ∈ literal.head?, c.isAlpha = true) ∧
    ∀ c ∈ literal, (c.isAlphanum || c == '.' || c == '_' || c == '-') = true

/-- Whether a document may stand alone. -/
def IsStandalone (literal : List Char) : Prop := literal = "yes".toList ∨ literal = "no".toList

/-- A part of the declaration that may be left out. -/
def Declares (name : String) (allowed : List Char → Prop) (text : List Char) : Prop :=
  text = [] ∨ ∃ literal, Assigns text name.toList literal ∧ allowed literal

/-- The declaration that a document may begin with. -/
inductive Declaration : List Char → Prop
  | intro {version literal encoding standalone space : List Char}
      (hversion : Assigns version "version".toList literal) (hliteral : IsVersion literal)
      (hencoding : Declares "encoding" IsEncoding encoding)
      (hstandalone : Declares "standalone" IsStandalone standalone) (hspace : IsSpaces space) :
      Declaration ("<?xml".toList ++
        ((version ++ (encoding ++ (standalone ++ space))) ++ "?>".toList))

/-- A document without a document type, and its root. -/
def Document (text : List Char) (root : Node) : Prop :=
  ∃ declaration before body after,
    normalizeLineEnds text = declaration ++ (before ++ (body ++ after)) ∧
      (declaration = [] ∨ Declaration declaration) ∧ Misc before ∧ Element body root ∧ Misc after

/-! ## Line ends -/

theorem normalizeLineEnds_append {cs : List Char} (hcs : '\r' ∉ cs) (rest : List Char) :
    normalizeLineEnds (cs ++ rest) = cs ++ normalizeLineEnds rest := by
  induction cs with
  | nil => rfl
  | cons c cs ih =>
      rw [List.mem_cons, not_or] at hcs
      rw [List.cons_append, normalizeLineEnds, if_neg (Ne.symm hcs.1), ih hcs.2, List.cons_append]

theorem normalizeLineEnds_of_notMem {cs : List Char} (h : '\r' ∉ cs) :
    normalizeLineEnds cs = cs := by
  simpa [normalizeLineEnds] using normalizeLineEnds_append h []

/-- Line ends do not depend on what follows, unless it is a line feed. -/
theorem normalizeLineEnds_append_of_head (cs : List Char) {rest : List Char}
    (hrest : rest.head? ≠ some '\n') :
    normalizeLineEnds (cs ++ rest) = normalizeLineEnds cs ++ normalizeLineEnds rest := by
  induction cs with
  | nil => rfl
  | cons c cs ih =>
      have hhead : (cs ++ rest).head? = some '\n' ↔ cs.head? = some '\n' := by
        cases cs with
        | nil => simpa using hrest
        | cons d cs => rfl
      simp only [List.cons_append, normalizeLineEnds, hhead, ih]
      split
      · split <;> rfl
      · rfl

theorem notMem_normalizeLineEnds (cs : List Char) : '\r' ∉ normalizeLineEnds cs := by
  induction cs with
  | nil => exact List.not_mem_nil
  | cons c cs ih =>
      rw [normalizeLineEnds]
      split
      · split
        · exact ih
        · simpa using ih
      · rename_i hc
        simpa [ih] using Ne.symm hc

theorem length_normalizeLineEnds_le (cs : List Char) :
    (normalizeLineEnds cs).length ≤ cs.length := by
  induction cs with
  | nil => exact Nat.le_refl 0
  | cons c cs ih =>
      rw [normalizeLineEnds]
      split
      · split
        · exact Nat.le_succ_of_le ih
        · exact Nat.succ_le_succ ih
      · exact Nat.succ_le_succ ih

/-- A text without carriage returns is left as it is, and no other text is. -/
theorem normalizeLineEnds_eq_iff {cs : List Char} : normalizeLineEnds cs = cs ↔ '\r' ∉ cs :=
  ⟨fun h => h ▸ notMem_normalizeLineEnds cs, normalizeLineEnds_of_notMem⟩

theorem mem_of_mem_normalizeLineEnds {cs : List Char} {c : Char} (hc : c ≠ '\n')
    (h : c ∈ normalizeLineEnds cs) : c ∈ cs := by
  induction cs with
  | nil => exact h
  | cons d cs ih =>
      rw [normalizeLineEnds] at h
      split at h
      · split at h
        · exact List.mem_cons_of_mem d (ih h)
        · exact List.mem_cons_of_mem d (ih (List.mem_of_ne_of_mem hc h))
      · rcases List.mem_cons.mp h with rfl | h
        · exact List.mem_cons_self
        · exact List.mem_cons_of_mem d (ih h)

/-! ## Names and tags -/

/-- A name ends where a character comes that names do not have. -/
theorem name_append_inj {name name' rest rest' : List Char}
    (hname : ∀ c ∈ name, isAmong nameRanges c = true)
    (hname' : ∀ c ∈ name', isAmong nameRanges c = true)
    (hrest : ∀ c ∈ rest.head?, isAmong nameRanges c = false)
    (hrest' : ∀ c ∈ rest'.head?, isAmong nameRanges c = false)
    (h : name ++ rest = name' ++ rest') : name = name' ∧ rest = rest' := by
  obtain ⟨htake, hdrop⟩ := takeWhile_dropWhile_eq_iff.mpr ⟨rfl, hname, hrest⟩
  obtain ⟨htake', hdrop'⟩ := takeWhile_dropWhile_eq_iff.mpr ⟨rfl, hname', hrest'⟩
  rw [h] at htake hdrop
  exact ⟨htake.symm.trans htake', hdrop.symm.trans hdrop'⟩

/-- White space does not stand in names. -/
theorem isAmong_of_isSpace {c : Char} (h : isSpace c = true) : isAmong nameRanges c = false := by
  simp only [isSpace, Bool.or_eq_true, beq_iff_eq] at h
  rcases h with ((rfl | rfl) | rfl) | rfl <;> rfl

/-- A literal in double quotes behind a space. -/
theorem Assigns.of_isName {name literal : List Char} (h : IsName name) (hliteral : '\x22' ∉ literal) :
    Assigns (' ' :: (name ++ '=' :: '\x22' :: (literal ++ ['\x22']))) name literal := by
  have hspace : IsSpaces [' '] := by simp [IsSpaces, isSpace]
  have hspaces : IsSpaces [] := by simp [IsSpaces]
  simpa using Assigns.intro (by simp) hspace h hspaces hspaces (.inl rfl) hliteral

theorem Assigns.exists_cons {text name literal : List Char} (h : Assigns text name literal) :
    ∃ c cs, text = c :: cs ∧ isSpace c = true := by
  cases h with
  | @intro space _ _ _ _ _ hne hspace =>
      obtain ⟨c, cs, rfl⟩ := List.exists_cons_of_ne_nil hne
      exact ⟨c, _, rfl, hspace c List.mem_cons_self⟩

theorem Attributes.eq_nil_or {text : List Char} {names : List (List Char)}
    (h : Attributes text names) : text = [] ∨ ∃ c cs, text = c :: cs ∧ isSpace c = true := by
  cases h with
  | nil => exact .inl rfl
  | @cons text _ _ cs _ hassigns =>
      obtain ⟨c, rest, rfl, hc⟩ := hassigns.exists_cons
      exact .inr ⟨c, rest ++ cs, rfl, hc⟩

/-- What comes after the name of a tag: white space, or what ends the tag. -/
theorem TagHead.exists_eq {tag name : List Char} (h : TagHead tag name) :
    IsName name ∧ ∃ more, tag = '<' :: (name ++ more) ∧
      (more = [] ∨ ∃ c cs, more = c :: cs ∧ isSpace c = true) := by
  cases h with
  | @intro _ attributes space _ hname hattributes hspace =>
      refine ⟨hname, _, rfl, ?_⟩
      rcases hattributes.eq_nil_or with rfl | ⟨c, cs, rfl, hc⟩
      · cases space with
        | nil => exact .inl rfl
        | cons c cs => exact .inr ⟨c, cs, rfl, hspace c List.mem_cons_self⟩
      · exact .inr ⟨c, cs ++ space, rfl, hc⟩

/-- A tag without attributes and white space is read as such. -/
theorem TagHead.of_append {tag name name' rest rest' : List Char} {c : Char} (h : TagHead tag name)
    (hname' : ∀ c ∈ name', isAmong nameRanges c = true) (hc : c = '>' ∨ c = '/')
    (heq : tag ++ c :: rest = '<' :: (name' ++ '>' :: rest')) :
    name = name' ∧ c = '>' ∧ rest = rest' := by
  obtain ⟨hname, more, rfl, hmore⟩ := h.exists_eq
  rw [List.cons_append, List.append_assoc, List.cons.injEq] at heq
  have hends : ∀ d ∈ (more ++ c :: rest).head?, isAmong nameRanges d = false := by
    rcases hmore with rfl | ⟨d, ds, rfl, hd⟩
    · rcases hc with rfl | rfl <;> exact fun d hd => by cases hd; rfl
    · exact fun e he => by cases he; exact isAmong_of_isSpace hd
  obtain ⟨rfl, hrest⟩ := name_append_inj hname.chars hname' hends
    (fun d hd => by cases hd; rfl) heq.2
  rcases hmore with rfl | ⟨d, ds, rfl, hd⟩
  · exact ⟨rfl, List.cons.inj hrest⟩
  · -- white space is no end of a tag
    obtain rfl := (List.cons.inj hrest).1
    cases hd

theorem EndTag.of_append {closing name rest rest' : List Char} (h : EndTag closing name)
    (heq : closing ++ rest = '<' :: '/' :: (name ++ '>' :: rest')) : rest = rest' := by
  cases h with
  | @intro _ space hname hspace =>
      simp only [List.cons_append, List.append_assoc, List.cons.injEq, List.append_cancel_left_eq,
        true_and] at heq
      cases space with
      | nil => exact (List.cons.inj heq).2
      | cons c cs =>
          have hc := hspace c List.mem_cons_self
          obtain rfl := (List.cons.inj heq).1
          cases hc

theorem TagHead.of_isName {name : List Char} (h : IsName name) : TagHead ('<' :: name) name := by
  have hspaces : IsSpaces [] := by simp [IsSpaces]
  simpa using TagHead.intro h .nil hspaces

theorem EndTag.of_isName {name : List Char} (h : IsName name) :
    EndTag ('<' :: '/' :: (name ++ ['>'])) name := by
  have hspaces : IsSpaces [] := by simp [IsSpaces]
  simpa using EndTag.intro h hspaces

theorem EndTag.exists_cons {closing name : List Char} (h : EndTag closing name) :
    ∃ cs, closing = '<' :: '/' :: cs := by
  cases h with
  | intro => exact ⟨_, rfl⟩

/-! ## Pieces -/

/-- A piece is longer than what it stands for. -/
theorem Piece.length_lt {text data : List Char} (h : Piece text data) :
    data.length < text.length := by
  cases h with
  | reference h => cases h <;> simp only [List.length_cons, List.length_append] <;> omega
  | data =>
      simp only [List.length_append]
      have hlength : "]]>".toList.length = 3 := rfl
      omega
  | ignored h => cases h <;> exact Nat.succ_pos _

/-- A reference begins with a letter of an entity, or with the sign of a number. -/
theorem Refers.exists_cons {text : List Char} {c : Char} (h : Refers text c) :
    ∃ d cs, text = '&' :: d :: cs ∧ d ∈ ['l', 'g', 'a', 'q', '#'] := by
  cases h with
  | entity h =>
      simp only [entities, List.mem_cons, Prod.mk.injEq, List.not_mem_nil, or_false] at h
      rcases h with ⟨rfl, -⟩ | ⟨rfl, -⟩ | ⟨rfl, -⟩ | ⟨rfl, -⟩ | ⟨rfl, -⟩ <;>
        exact ⟨_, _, rfl, by decide⟩
  | codePoint hbase =>
      simp only [List.mem_cons, Prod.mk.injEq, List.not_mem_nil, or_false] at hbase
      rcases hbase with ⟨rfl, -⟩ | ⟨rfl, -⟩ <;> exact ⟨_, _, rfl, by decide⟩

theorem Ignored.exists_cons {text : List Char} (h : Ignored text) :
    ∃ c cs, text = '<' :: c :: cs ∧ (c = '!' ∨ c = '?') := by
  cases h with
  | comment => exact ⟨_, _, rfl, .inl (by decide)⟩
  | instruction => exact ⟨_, _, rfl, .inr (by decide)⟩

theorem Piece.exists_cons {text data : List Char} (h : Piece text data) :
    (∃ cs, text = '&' :: cs) ∨ ∃ c cs, text = '<' :: c :: cs ∧ (c = '!' ∨ c = '?') := by
  cases h with
  | reference h => cases h <;> exact .inl ⟨_, rfl⟩
  | data => exact .inr ⟨_, _, rfl, .inl (by decide)⟩
  | ignored h => exact .inr h.exists_cons

/-- Neither comments nor instructions begin with a name behind the bracket. -/
theorem isAmong_of_mark {c : Char} (h : c = '!' ∨ c = '?') : isAmong nameStartRanges c = false := by
  rcases h with rfl | rfl <;> rfl

theorem IsName.exists_cons {name : List Char} (h : IsName name) :
    ∃ c cs, name = c :: cs ∧ isAmong nameStartRanges c = true := by
  obtain ⟨c, hc, hstart⟩ := h.start
  cases name with
  | nil => cases hc
  | cons d cs => cases hc; exact ⟨_, cs, rfl, hstart⟩

/-! ## Reading content -/

/-- Character data: no markup begins in it, and what ends a CDATA section is not in it. -/
structure IsCharData (text : List Char) : Prop where
  chars : ∀ c ∈ text, isChar c = true
  markup : ∀ c ∈ text, c ≠ '<' ∧ c ≠ '&'
  noEnd : ¬ "]]>".toList <:+: text

instance (text : List Char) : Decidable (IsCharData text) :=
  decidable_of_iff (text.all isChar = true ∧ text.all (fun c => c != '<' && c != '&') = true ∧
      ¬ "]]>".toList <:+: text)
    ⟨fun h => ⟨List.all_eq_true.mp h.1, by simpa using h.2.1, h.2.2⟩,
      fun h => ⟨List.all_eq_true.mpr h.chars, by simpa using h.markup, h.noEnd⟩⟩

/-- What may come after content: the end of the text, or a tag that closes. -/
def IsContentEnd (suffix : List Char) : Prop := suffix = [] ∨ ∃ more, suffix = '<' :: '/' :: more

namespace Content

/-- A character that begins no markup stands for itself. -/
theorem of_char {c : Char} {cs : List Char} {nodes : List Node} (h : Content (c :: cs) nodes)
    (hc : c ≠ '<' ∧ c ≠ '&') : ∃ nodes', nodes = .char c :: nodes' ∧ Content cs nodes' := by
  generalize htext : c :: cs = text at h
  cases h with
  | nil => cases htext
  | char _ _ _ h => cases htext; exact ⟨_, rfl, h⟩
  | piece hpiece =>
      rcases hpiece.exists_cons with ⟨rest, rfl⟩ | ⟨d, rest, rfl, -⟩
      · exact absurd (List.cons.inj htext).1 hc.2
      · exact absurd (List.cons.inj htext).1 hc.1
  | empty htag =>
      obtain ⟨-, more, rfl, -⟩ := htag.exists_eq
      exact absurd (List.cons.inj htext).1 hc.1
  | element htag =>
      obtain ⟨-, more, rfl, -⟩ := htag.exists_eq
      exact absurd (List.cons.inj htext).1 hc.1

/-- A character that begins no markup stands for itself, whatever comes after the content. -/
theorem of_append_char {c : Char} {text rest suffix : List Char} {nodes : List Node}
    (h : Content text nodes) (hc : c ≠ '<' ∧ c ≠ '&') (hsuffix : IsContentEnd suffix)
    (heq : text ++ suffix = c :: rest) :
    ∃ more nodes', text = c :: more ∧ nodes = .char c :: nodes' ∧ Content more nodes' ∧
      more ++ suffix = rest := by
  cases text with
  | nil =>
      rcases hsuffix with rfl | ⟨more, rfl⟩
      · cases heq
      · exact absurd (List.cons.inj heq).1.symm hc.1
  | cons d more =>
      obtain ⟨rfl, hrest⟩ := List.cons.inj heq
      obtain ⟨nodes', rfl, hmore⟩ := h.of_char hc
      exact ⟨more, nodes', rfl, rfl, hmore, hrest⟩

/-- An ampersand begins a reference. -/
theorem of_ampersand {rest : List Char} {nodes : List Node} (h : Content ('&' :: rest) nodes) :
    ∃ text c cs, Refers text c ∧ '&' :: rest = text ++ cs := by
  generalize htext : '&' :: rest = whole at h ⊢
  cases h with
  | nil => cases htext
  | char _ hmarkup => exact absurd (List.cons.inj htext).1.symm hmarkup.2
  | piece hpiece =>
      cases hpiece with
      | reference h => exact ⟨_, _, _, h, rfl⟩
      | data => cases (List.cons.inj htext).1
      | ignored h =>
          obtain ⟨c, cs, rfl, -⟩ := h.exists_cons
          cases (List.cons.inj htext).1
  | empty htag =>
      obtain ⟨-, more, rfl, -⟩ := htag.exists_eq
      cases (List.cons.inj htext).1
  | element htag =>
      obtain ⟨-, more, rfl, -⟩ := htag.exists_eq
      cases (List.cons.inj htext).1

/-- A tag without attributes opens an element, whatever comes after the content. -/
theorem of_tag {text name rest suffix : List Char} {nodes : List Node} (h : Content text nodes)
    (hname : IsName name) (hsuffix : IsContentEnd suffix)
    (heq : text ++ suffix = '<' :: (name ++ '>' :: rest)) :
    ∃ inner closing cs children nodes', rest = inner ++ (closing ++ (cs ++ suffix)) ∧
      nodes = .element name children :: nodes' ∧ Content inner children ∧ EndTag closing name ∧
      Content cs nodes' := by
  cases h with
  | nil =>
      obtain ⟨c, cs, rfl, hc⟩ := hname.exists_cons
      rcases hsuffix with rfl | ⟨more, rfl⟩
      · cases heq
      · obtain rfl := (List.cons.inj (List.cons.inj heq).2).1
        cases hc
  | char _ hmarkup => exact absurd (List.cons.inj heq).1 hmarkup.1
  | piece hpiece =>
      obtain ⟨c, cs, rfl, hc⟩ := hname.exists_cons
      rcases hpiece.exists_cons with ⟨more, rfl⟩ | ⟨d, more, rfl, hd⟩
      · cases (List.cons.inj heq).1
      · obtain rfl := (List.cons.inj (List.cons.inj heq).2).1
        rw [isAmong_of_mark hd] at hc
        cases hc
  | empty htag =>
      rw [List.append_assoc, List.cons_append] at heq
      cases (htag.of_append hname.chars (.inr rfl) heq).2.1
  | element htag hinner hclosing h =>
      rw [List.append_assoc, List.cons_append, List.append_assoc, List.append_assoc] at heq
      obtain ⟨rfl, -, hrest⟩ := htag.of_append hname.chars (.inl rfl) heq
      exact ⟨_, _, _, _, _, hrest.symm, rfl, hinner, hclosing, h⟩

/-- No content begins like a tag that closes. -/
theorem eq_nil_of_closing {text rest rest' : List Char} {nodes : List Node}
    (h : Content text nodes) (heq : text ++ '<' :: rest = '<' :: '/' :: rest') :
    text = [] ∧ nodes = [] := by
  have hslash : ∀ {tag name more : List Char}, TagHead tag name →
      tag ++ more ≠ '<' :: '/' :: rest' := by
    intro tag name more htag htext
    obtain ⟨hname, more', rfl, -⟩ := htag.exists_eq
    obtain ⟨c, cs, rfl, hc⟩ := hname.exists_cons
    obtain rfl := (List.cons.inj (List.cons.inj htext).2).1
    cases hc
  cases h with
  | nil => exact ⟨rfl, rfl⟩
  | char _ hmarkup => exact absurd (List.cons.inj heq).1 hmarkup.1
  | piece hpiece =>
      rcases hpiece.exists_cons with ⟨more, rfl⟩ | ⟨d, more, rfl, hd⟩
      · cases (List.cons.inj heq).1
      · obtain rfl := (List.cons.inj (List.cons.inj heq).2).1
        rcases hd with hd | hd <;> cases hd
  | empty htag => exact absurd (List.append_assoc .. ▸ heq) (hslash htag)
  | element htag => exact absurd (List.append_assoc .. ▸ heq) (hslash htag)

/-- Character data up to a tag that closes stands for itself, and for nothing else. -/
theorem eq_of_isCharData {text data rest rest' : List Char} {nodes : List Node}
    (h : Content text nodes) (hdata : IsCharData data)
    (heq : text ++ '<' :: '/' :: rest = data ++ '<' :: '/' :: rest') :
    text = data ∧ nodes = data.map .char := by
  induction data generalizing text nodes with
  | nil => exact h.eq_nil_of_closing heq
  | cons c cs ih =>
      obtain ⟨hmarkup, hmarkups⟩ := List.forall_mem_cons.mp hdata.markup
      obtain ⟨more, nodes, rfl, rfl, hmore, hrest⟩ :=
        h.of_append_char hmarkup (.inr ⟨_, rfl⟩) heq
      obtain ⟨rfl, rfl⟩ := ih hmore ⟨(List.forall_mem_cons.mp hdata.chars).2, hmarkups,
        fun hend => hdata.noEnd (List.infix_cons hend)⟩ hrest
      exact ⟨rfl, rfl⟩

/-- A character that neither begins markup nor may end a section stands for itself. -/
theorem cons {c : Char} {cs : List Char} {nodes : List Node} (h : Content cs nodes)
    (hchar : isChar c = true) (hmarkup : c ≠ '<' ∧ c ≠ '&' ∧ c ≠ ']') :
    Content (c :: cs) (.char c :: nodes) := by
  refine .char hchar ⟨hmarkup.1, hmarkup.2.1⟩ (fun hend => hmarkup.2.2 ?_) h
  obtain ⟨more, hmore⟩ := hend
  exact (List.cons.inj hmore).1.symm

/-- Character data stands for itself. -/
theorem of_isCharData {text : List Char} (h : IsCharData text) : Content text (text.map .char) := by
  induction text with
  | nil => exact .nil
  | cons c cs ih =>
      obtain ⟨hchar, hchars⟩ := List.forall_mem_cons.mp h.chars
      obtain ⟨hmarkup, hmarkups⟩ := List.forall_mem_cons.mp h.markup
      exact .char hchar hmarkup (fun hend => h.noEnd hend.isInfix)
        (ih ⟨hchars, hmarkups, fun hend => h.noEnd (List.infix_cons hend)⟩)

/-- A text that is no longer than the characters that it stands for is character data, and these
are its own. -/
theorem eq_of_length_le {text data : List Char} (h : Content text (data.map .char))
    (hlength : text.length ≤ data.length) : data = text ∧ IsCharData text := by
  generalize hnodes : data.map Node.char = nodes at h
  induction h generalizing data with
  | nil =>
      cases List.map_eq_nil_iff.mp hnodes
      exact ⟨rfl, by simp, by simp, by decide⟩
  | @char c cs nodes hchar hmarkup hend h ih =>
      obtain ⟨d, ds, rfl, hd, hds⟩ := List.map_eq_cons_iff.mp hnodes
      cases hd
      obtain ⟨rfl, hdata⟩ := ih (Nat.le_of_succ_le_succ hlength) hds
      refine ⟨rfl, List.forall_mem_cons.mpr ⟨hchar, hdata.chars⟩,
        List.forall_mem_cons.mpr ⟨hmarkup, hdata.markup⟩, fun hinfix => ?_⟩
      rcases List.infix_cons_iff.mp hinfix with hstart | hinfix
      · exact hend hstart
      · exact hdata.noEnd hinfix
  | @piece text front cs nodes hpiece h ih =>
      -- what a piece loses can not be made up for
      obtain ⟨front', back, rfl, hfront, hback⟩ := List.map_eq_append_iff.mp hnodes
      have hlt := hpiece.length_lt
      have hsame : front'.length = front.length := by
        simpa using congrArg List.length hfront
      rw [List.length_append, List.length_append] at hlength
      obtain ⟨rfl, -⟩ := ih (by omega) hback
      omega
  | empty => obtain ⟨_, _, _, hd, _⟩ := List.map_eq_cons_iff.mp hnodes; cases hd
  | element => obtain ⟨_, _, _, hd, _⟩ := List.map_eq_cons_iff.mp hnodes; cases hd

end Content

/-! ## Slashes -/

mutual

/-- The number of elements in a node. -/
def Node.size : Node → Nat
  | .char _ => 0
  | .element _ children => Node.sizes children + 1

/-- The number of elements in nodes. -/
def Node.sizes : List Node → Nat
  | [] => 0
  | node :: nodes => node.size + Node.sizes nodes

end

theorem Node.sizes_append (nodes nodes' : List Node) :
    Node.sizes (nodes ++ nodes') = Node.sizes nodes + Node.sizes nodes' := by
  induction nodes with
  | nil => simp [Node.sizes]
  | cons node nodes ih => simp [Node.sizes, ih, Nat.add_assoc]

theorem Node.sizes_chars (data : List Char) : Node.sizes (data.map .char) = 0 := by
  induction data with
  | nil => rfl
  | cons c cs ih => simp [Node.sizes, Node.size, ih]

/-- Each element has a slash of its own. -/
theorem Content.sizes_le_count {text : List Char} {nodes : List Node} (h : Content text nodes) :
    Node.sizes nodes ≤ text.count '/' := by
  induction h with
  | nil => exact Nat.le_refl 0
  | char _ _ _ _ ih =>
      rw [Node.sizes, Node.size, Nat.zero_add]
      exact Nat.le_trans ih List.count_le_count_cons
  | piece _ _ ih =>
      rw [Node.sizes_append, Node.sizes_chars, Nat.zero_add, List.count_append]
      exact Nat.le_add_left_of_le ih
  | empty _ _ ih =>
      simp only [Node.sizes, Node.size, List.count_append, List.count_cons_self,
        List.count_cons_of_ne (show '>' ≠ '/' by decide)]
      omega
  | element _ _ hclosing _ ihinner ih =>
      obtain ⟨cs, rfl⟩ := hclosing.exists_cons
      simp only [Node.sizes, Node.size, List.count_append, List.cons_append,
        List.count_cons_self, List.count_cons_of_ne (show '>' ≠ '/' by decide),
        List.count_cons_of_ne (show '<' ≠ '/' by decide)]
      omega

/-- A text is cut in one way only where a character stands for the n-th time. -/
theorem append_cons_inj_of_count {a : Char} {xs ys xs' ys' : List Char}
    (h : xs ++ a :: xs' = ys ++ a :: ys') (hcount : xs.count a = ys.count a) :
    xs = ys ∧ xs' = ys' := by
  rcases List.append_eq_append_iff.mp h with ⟨zs, rfl, hzs⟩ | ⟨zs, rfl, hzs⟩
  · cases zs with
    | nil => simpa using hzs
    | cons z zs =>
        obtain rfl := (List.cons.inj hzs).1
        simp at hcount
  · cases zs with
    | nil => simpa [eq_comm] using hzs
    | cons z zs =>
        obtain rfl := (List.cons.inj hzs).1
        simp at hcount

theorem closing_inj_of_count {xs ys xs' ys' : List Char}
    (h : xs ++ '<' :: '/' :: xs' = ys ++ '<' :: '/' :: ys') (hcount : xs.count '/' = ys.count '/') :
    xs = ys ∧ xs' = ys' := by
  have hcut : ∀ zs zs' : List Char, zs ++ '<' :: '/' :: zs' = (zs ++ ['<']) ++ '/' :: zs' := by simp
  rw [hcut, hcut] at h
  obtain ⟨hfront, hback⟩ := append_cons_inj_of_count h (by simp [hcount])
  exact ⟨List.append_cancel_right hfront, hback⟩

/-! ## Reading documents -/

theorem Assigns.notMem {text name literal : List Char} (h : Assigns text name literal)
    (hname : '?' ∉ name) (hliteral : '?' ∉ literal) : '?' ∉ text := by
  have hspaces : ∀ {cs : List Char}, IsSpaces cs → '?' ∉ cs := fun hcs h => by cases hcs _ h
  cases h with
  | @intro _ _ _ _ _ quote _ hspace _ hbefore hafter hquote =>
      have hquote' : ¬ '?' = quote := fun h => by rcases hquote with rfl | rfl <;> cases h
      simp [hspaces hspace, hspaces hbefore, hspaces hafter, hname, hliteral, hquote']

theorem Declares.notMem {name : String} {allowed : List Char → Prop} {text : List Char}
    (h : Declares name allowed text) (hname : '?' ∉ name.toList)
    (hallowed : ∀ literal, allowed literal → '?' ∉ literal) : '?' ∉ text := by
  rcases h with rfl | ⟨literal, hassigns, hliteral⟩
  · exact List.not_mem_nil
  · exact hassigns.notMem hname (hallowed literal hliteral)

/-- The first question mark behind its start ends a declaration. -/
theorem Declaration.exists_eq {text : List Char} (h : Declaration text) :
    ∃ info, text = "<?xml".toList ++ (info ++ ['?', '>']) ∧ '?' ∉ info := by
  cases h with
  | intro hversion hliteral hencoding hstandalone hspace =>
      refine ⟨_, rfl, ?_⟩
      have hversion' := hversion.notMem (by decide) (by
        obtain ⟨digits, rfl, -, hdigits⟩ := hliteral
        exact fun h => (List.mem_append.mp h).elim (by decide) fun h => by cases hdigits _ h)
      have hencoding' := hencoding.notMem (by decide)
        fun literal hallowed h => by cases hallowed.2 _ h
      have hstandalone' := hstandalone.notMem (by decide) (by
        rintro literal (rfl | rfl) <;> decide)
      simp only [List.mem_append, not_or]
      exact ⟨hversion', hencoding', hstandalone', fun h => by cases hspace _ h⟩

/-- Nothing comes before an element that is begun. -/
theorem Misc.eq_nil {before name rest rest' : List Char} (h : Misc before) (hname : IsName name)
    (heq : before ++ rest = '<' :: (name ++ rest')) : before = [] := by
  obtain ⟨c, cs, rfl, hc⟩ := hname.exists_cons
  cases h with
  | nil => rfl
  | space hspace =>
      obtain rfl := (List.cons.inj heq).1
      cases hspace
  | ignored hignored =>
      obtain ⟨d, more, rfl, hd⟩ := hignored.exists_cons
      obtain rfl := (List.cons.inj (List.cons.inj heq).2).1
      rw [isAmong_of_mark hd] at hc
      cases hc

theorem Element.exists_cons {body : List Char} {root : Node} (h : Element body root) :
    ∃ c cs, body = '<' :: c :: cs ∧ isAmong nameStartRanges c = true := by
  have hhead : ∀ {tag name : List Char}, TagHead tag name →
      ∃ c cs, tag = '<' :: c :: cs ∧ isAmong nameStartRanges c = true := by
    intro tag name htag
    obtain ⟨hname, more, rfl, -⟩ := htag.exists_eq
    obtain ⟨c, cs, rfl, hc⟩ := hname.exists_cons
    exact ⟨c, cs ++ more, rfl, hc⟩
  cases h with
  | empty htag | tagged htag =>
      obtain ⟨c, cs, rfl, hc⟩ := hhead htag
      exact ⟨c, _, rfl, hc⟩

/-- Nothing but a declaration begins like one. -/
theorem not_declared {before body rest more : List Char} {root : Node} (hbefore : Misc before)
    (hbody : Element body root) (hmore : ∀ c ∈ more.head?, isAmong nameRanges c = false) :
    before ++ (body ++ rest) ≠ "<?xml".toList ++ more := by
  intro heq
  cases hbefore with
  | nil =>
      obtain ⟨c, cs, rfl, hc⟩ := hbody.exists_cons
      obtain rfl := (List.cons.inj (List.cons.inj heq).2).1
      cases hc
  | space hspace =>
      obtain rfl := (List.cons.inj heq).1
      cases hspace
  | @ignored _ after hignored =>
      cases hignored with
      | comment => cases (List.cons.inj (List.cons.inj heq).2).1
      | @instruction target text htarget hreserved hspace =>
          -- its target would be the name that is reserved
          have htail : target ++ (text ++ "?>".toList) ++ after ++ (body ++ rest) =
              "xml".toList ++ more := (List.cons.inj (List.cons.inj heq).2).2
          rw [List.append_assoc, List.append_assoc] at htail
          have hends : ∀ c ∈ (text ++ "?>".toList ++ (after ++ (body ++ rest))).head?,
              isAmong nameRanges c = false := by
            intro c hc
            cases text with
            | nil => cases hc; rfl
            | cons d ds => cases hc; exact isAmong_of_isSpace (hspace _ rfl)
          refine hreserved ?_
          rw [(name_append_inj htarget.chars (List.all_eq_true.mp (by decide)) hends hmore htail).1]
          decide

/-- What a document with a declaration has between the tags of its root, if nothing but the name
stands in the first. -/
theorem Document.exists_content {text info name rest : List Char} {root : Node}
    (h : Document text root)
    (htext : normalizeLineEnds text =
      "<?xml".toList ++ (info ++ '?' :: '>' :: '\n' :: '<' :: (name ++ '>' :: rest)))
    (hinfo : ∀ c ∈ (info ++ ['?']).head?, isAmong nameRanges c = false) (hmark : '?' ∉ info)
    (hname : IsName name) :
    ∃ inner closing after children, rest = inner ++ (closing ++ after) ∧
      root = .element name children ∧ Content inner children ∧ EndTag closing name := by
  obtain ⟨declaration, before, body, after, hparts, hdeclaration, hbefore, hbody, -⟩ := h
  rw [htext] at hparts
  rcases hdeclaration with hdeclaration | hdeclaration
  · rw [hdeclaration, List.nil_append] at hparts
    refine absurd hparts.symm (not_declared hbefore hbody fun c hc => hinfo c ?_)
    cases info <;> exact hc
  obtain ⟨info', rfl, hmark'⟩ := hdeclaration.exists_eq
  have hroot : '\n' :: '<' :: (name ++ '>' :: rest) = before ++ (body ++ after) := by
    rw [List.append_assoc, List.append_cancel_left_eq, List.append_assoc] at hparts
    obtain ⟨-, hparts⟩ := append_cons_inj_of_count hparts
      ((List.count_eq_zero.mpr hmark).trans (List.count_eq_zero.mpr hmark').symm)
    exact (List.cons.inj hparts).2
  cases hbefore with
  | nil =>
      obtain ⟨c, cs, rfl, -⟩ := hbody.exists_cons
      cases (List.cons.inj hroot).1
  | ignored hignored =>
      obtain ⟨c, cs, rfl, -⟩ := hignored.exists_cons
      cases (List.cons.inj hroot).1
  | @space c before _ hbefore =>
      have hroot : '<' :: (name ++ '>' :: rest) = before ++ (body ++ after) :=
        (List.cons.inj hroot).2
      cases hbefore.eq_nil hname hroot.symm
      cases hbody with
      | @empty tag name' htag =>
          have htext : tag ++ '/' :: '>' :: after = '<' :: (name ++ '>' :: rest) := by
            simpa using hroot.symm
          cases (htag.of_append hname.chars (.inr rfl) htext).2.1
      | @tagged tag name' inner closing children htag hinner hclosing =>
          have htext : tag ++ '>' :: (inner ++ (closing ++ after)) =
              '<' :: (name ++ '>' :: rest) := by
            simpa using hroot.symm
          obtain ⟨rfl, -, hrest⟩ := htag.of_append hname.chars (.inl rfl) htext
          exact ⟨_, _, _, _, hrest.symm, rfl, hinner, hclosing⟩

end RobotCell.Xml
