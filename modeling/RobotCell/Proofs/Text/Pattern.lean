import Mathlib.Data.List.Basic
import RobotCell.Text.Blank

/-!
# RobotCell.Proofs.Text.Pattern

Patterns over texts, and what a search finds with them.

The ways to match a pattern have an order of preference: an alternative goes before the one after
it, and a long run before a short one, or a short run before a long one where few characters are
wanted.  `Pattern.run` gives what the first of the ways leads to with which the rest of the pattern
can be matched as well.

A search takes the leftmost place with a match (`Pattern.find?`), and searches one after another,
each from the end of the match before, give matches that do not overlap (`Pattern.findAll`).

* `Pattern.run_map` — what is made of a match does not decide which one is found;
* `Pattern.exists_of_run` — a match takes as many characters as its pattern needs;
* `Pattern.LeadsTo` — where a match goes on by the text that comes next alone, it is followed
  without the character before, through runs (`LeadsTo.longest`, `LeadsTo.shortest`), fixed texts
  and groups;
* `Pattern.Keeps` — when a run never has to be given back.
-/

namespace RobotCell

variable {α β : Type}

/-! ## Matches -/

/-- How far a match has come: the character before it, the text after it, and the groups that were
captured, the last one first. -/
structure Matched where
  last : Option Char
  rest : List Char
  groups : List (Nat × List Char)

namespace Matched

/-- Nothing but a line end stands before. -/
def atLineStart (m : Matched) : Bool := m.last.all (· == '\n')

/-- Nothing but a line end comes next. -/
def atLineEnd (m : Matched) : Bool := m.rest.head?.all (· == '\n')

/-- The match with the characters since a place as a group. -/
def capture (m : Matched) (number : Nat) (start : List Char) : Matched :=
  { m with groups := (number, start.take (start.length - m.rest.length)) :: m.groups }

end Matched

/-! ## Patterns -/

/-- What a text is searched for. -/
inductive Pattern where
  /-- Nothing. -/
  | empty
  /-- The place before a line. -/
  | lineStart
  /-- The place behind a line. -/
  | lineEnd
  /-- A character of a class. -/
  | char (accepts : Char → Bool)
  /-- One pattern behind another. -/
  | seq (first second : Pattern)
  /-- A pattern, or else another. -/
  | either (preferred other : Pattern)
  /-- Characters of a class, many rather than few. -/
  | many (accepts : Char → Bool)
  /-- Characters of a class, few rather than many. -/
  | few (accepts : Char → Bool)
  /-- A pattern whose characters are captured under a number. -/
  | group (number : Nat) (body : Pattern)

namespace Pattern

/-- A run of characters that is given back one by one until the match can go on. -/
def runMany (accepts : Char → Bool) (next : Matched → Option α) (groups : List (Nat × List Char)) :
    Option Char → List Char → Option α
  | last, [] => next ⟨last, [], groups⟩
  | last, c :: cs =>
    if accepts c then (runMany accepts next groups (some c) cs).or (next ⟨last, c :: cs, groups⟩)
    else next ⟨last, c :: cs, groups⟩

/-- A run of characters that grows one by one until the match can go on. -/
def runFew (accepts : Char → Bool) (next : Matched → Option α) (groups : List (Nat × List Char)) :
    Option Char → List Char → Option α
  | last, [] => next ⟨last, [], groups⟩
  | last, c :: cs =>
    (next ⟨last, c :: cs, groups⟩).or
      (if accepts c then runFew accepts next groups (some c) cs else none)

/-- What the first way to match a pattern leads to that can be gone on with. -/
def run : Pattern → (Matched → Option α) → Matched → Option α
  | empty, next, m => next m
  | lineStart, next, m => if m.atLineStart then next m else none
  | lineEnd, next, m => if m.atLineEnd then next m else none
  | char accepts, next, m =>
    match m.rest with
    | c :: cs => if accepts c then next { m with last := some c, rest := cs } else none
    | [] => none
  | seq first second, next, m => first.run (second.run next) m
  | either preferred other, next, m => (preferred.run next m).or (other.run next m)
  | many accepts, next, m => runMany accepts next m.groups m.last m.rest
  | few accepts, next, m => runFew accepts next m.groups m.last m.rest
  | group number body, next, m => body.run (fun m' => next (m'.capture number m.rest)) m

/-- The first match from the leftmost place that has one. -/
def find? (p : Pattern) : Option Char → List Char → Option Matched
  | last, [] => p.run some ⟨last, [], []⟩
  | last, c :: cs => (p.run some ⟨last, c :: cs, []⟩).or (p.find? (some c) cs)

/-- The matches of one search after another; one that takes no character is the last. -/
def findAll (p : Pattern) (last : Option Char) (cs : List Char) : List Matched :=
  match p.find? last cs with
  | none => []
  | some m => m :: if m.rest.length < cs.length then p.findAll m.last m.rest else []
termination_by cs.length

/-! ### Abbreviations -/

/-- Patterns one behind another. -/
def sequence (ps : List Pattern) : Pattern := ps.foldr seq empty

/-- The characters of a text. -/
def literal (word : String) : Pattern := sequence (word.toList.map fun c => char (· == c))

/-- One of several texts, the first before the others. -/
def oneOf (word : String) : List String → Pattern
  | [] => literal word
  | other :: words => either (literal word) (oneOf other words)

/-- A pattern, or nothing. -/
def optional (p : Pattern) : Pattern := either p empty

/-- One character of a class or more, many rather than few. -/
def oneOrMore (accepts : Char → Bool) : Pattern := seq (char accepts) (many accepts)

theorem sequence_cons (p : Pattern) (ps : List Pattern) :
    sequence (p :: ps) = seq p (sequence ps) := rfl

variable {p : Pattern} {accepts : Char → Bool} {next : Matched → Option α} {m r : Matched}

/-! ## What a match leads to -/

/-- What is made of a match does not decide how long a run is. -/
theorem runMany_map (f : α → β) (groups : List (Nat × List Char)) (last : Option Char)
    (cs : List Char) :
    (runMany accepts next groups last cs).map f =
      runMany accepts (fun m => (next m).map f) groups last cs := by
  induction cs generalizing last with
  | nil => rfl
  | cons c cs ih => simp only [runMany, apply_ite (Option.map f), Option.map_or, ih]

/-- Nor how long a run of few characters is. -/
theorem runFew_map (f : α → β) (groups : List (Nat × List Char)) (last : Option Char)
    (cs : List Char) :
    (runFew accepts next groups last cs).map f =
      runFew accepts (fun m => (next m).map f) groups last cs := by
  induction cs generalizing last with
  | nil => rfl
  | cons c cs ih =>
      simp only [runFew, Option.map_or, apply_ite (Option.map f), ih, Option.map_none]

/-- What is made of a match does not decide which one is found. -/
theorem run_map (f : α → β) (p : Pattern) (next : Matched → Option α) (m : Matched) :
    (p.run next m).map f = p.run (fun m' => (next m').map f) m := by
  induction p generalizing next m with
  | empty => rfl
  | lineStart => simp only [run, apply_ite (Option.map f), Option.map_none]
  | lineEnd => simp only [run, apply_ite (Option.map f), Option.map_none]
  | char accepts =>
      cases hrest : m.rest with
      | nil => simp [run, hrest]
      | cons c cs => simp only [run, hrest, apply_ite (Option.map f), Option.map_none]
  | seq first second ihfirst ihsecond => simp only [run, ihfirst, ihsecond]
  | either preferred other ihpreferred ihother =>
      simp only [run, Option.map_or, ihpreferred, ihother]
  | many accepts => exact runMany_map f m.groups m.last m.rest
  | few accepts => exact runFew_map f m.groups m.last m.rest
  | group number body ih => simp only [run, ih]

/-! ## Widths -/

/-- The least number of characters that a match takes. -/
def width : Pattern → Nat
  | empty | lineStart | lineEnd | many _ | few _ => 0
  | char _ => 1
  | seq first second => first.width + second.width
  | either preferred other => min preferred.width other.width
  | group _ body => body.width

/-- A run takes no character back. -/
theorem exists_of_runMany {groups : List (Nat × List Char)} {last : Option Char} {cs : List Char}
    {a : α} (h : runMany accepts next groups last cs = some a) :
    ∃ m', m'.rest.length ≤ cs.length ∧ next m' = some a := by
  induction cs generalizing last with
  | nil => exact ⟨_, Nat.le_refl _, h⟩
  | cons c cs ih =>
      have here (h : next ⟨last, c :: cs, groups⟩ = some a) :
          ∃ m', m'.rest.length ≤ (c :: cs).length ∧ next m' = some a := ⟨_, Nat.le_refl _, h⟩
      rw [runMany] at h
      split at h
      · rcases Option.or_eq_some_iff.mp h with h | ⟨-, h⟩
        · obtain ⟨m', hle, hnext⟩ := ih h
          exact ⟨m', Nat.le_succ_of_le hle, hnext⟩
        · exact here h
      · exact here h

theorem exists_of_runFew {groups : List (Nat × List Char)} {last : Option Char} {cs : List Char}
    {a : α} (h : runFew accepts next groups last cs = some a) :
    ∃ m', m'.rest.length ≤ cs.length ∧ next m' = some a := by
  induction cs generalizing last with
  | nil => exact ⟨_, Nat.le_refl _, h⟩
  | cons c cs ih =>
      rcases Option.or_eq_some_iff.mp h with h | ⟨-, h⟩
      · exact ⟨_, Nat.le_refl _, h⟩
      · split at h
        · obtain ⟨m', hle, hnext⟩ := ih h
          exact ⟨m', Nat.le_succ_of_le hle, hnext⟩
        · cases h

/-- A match takes as many characters as its pattern needs. -/
theorem exists_of_run {a : α} (h : p.run next m = some a) :
    ∃ m', m'.rest.length + p.width ≤ m.rest.length ∧ next m' = some a := by
  induction p generalizing next m with
  | empty => exact ⟨m, Nat.le_refl _, h⟩
  | lineStart =>
      rw [run] at h
      split at h
      · exact ⟨m, Nat.le_refl _, h⟩
      · cases h
  | lineEnd =>
      rw [run] at h
      split at h
      · exact ⟨m, Nat.le_refl _, h⟩
      · cases h
  | char accepts =>
      cases hrest : m.rest with
      | nil => simp [run, hrest] at h
      | cons c cs =>
          simp only [run, hrest] at h
          split at h
          · exact ⟨_, Nat.le_refl _, h⟩
          · cases h
  | seq first second ihfirst ihsecond =>
      obtain ⟨m₁, hle₁, h₁⟩ := ihfirst h
      obtain ⟨m₂, hle₂, h₂⟩ := ihsecond h₁
      exact ⟨m₂, by simp only [width]; omega, h₂⟩
  | either preferred other ihpreferred ihother =>
      rcases Option.or_eq_some_iff.mp h with h | ⟨-, h⟩
      · obtain ⟨m', hle, hnext⟩ := ihpreferred h
        exact ⟨m', by simp only [width]; omega, hnext⟩
      · obtain ⟨m', hle, hnext⟩ := ihother h
        exact ⟨m', by simp only [width]; omega, hnext⟩
  | many accepts => exact exists_of_runMany h
  | few accepts => exact exists_of_runFew h
  | group number body ih =>
      obtain ⟨m', hle, hnext⟩ := ih h
      exact ⟨m'.capture number m.rest, hle, hnext⟩

/-! ## Searches -/

/-- A match that is found leaves less of the text by the width of its pattern. -/
theorem length_of_find? {last : Option Char} {cs : List Char} (h : p.find? last cs = some m) :
    m.rest.length + p.width ≤ cs.length := by
  have here {last : Option Char} {cs : List Char} (h : p.run some ⟨last, cs, []⟩ = some m) :
      m.rest.length + p.width ≤ cs.length := by
    obtain ⟨m', hle, hnext⟩ := exists_of_run h
    cases hnext
    exact hle
  induction cs generalizing last with
  | nil => exact here h
  | cons c cs ih =>
      rcases Option.or_eq_some_iff.mp h with h | ⟨-, h⟩
      · exact here h
      · exact Nat.le_succ_of_le (ih h)

/-- At the end of a text nothing with a width is matched. -/
theorem run_nil_of_width (hwidth : 0 < p.width) (last : Option Char)
    (groups : List (Nat × List Char)) : p.run next ⟨last, [], groups⟩ = none := by
  refine Option.eq_none_iff_forall_ne_some.mpr fun a h => ?_
  obtain ⟨m', hle, -⟩ := exists_of_run h
  rw [List.length_nil] at hle
  omega

/-- A search takes the first place that it comes to, if there is a match. -/
theorem find?_of_run {last : Option Char} {cs : List Char}
    (h : p.run some ⟨last, cs, []⟩ = some m) : p.find? last cs = some m := by
  cases cs with
  | nil => exact h
  | cons c cs => rw [find?, h, Option.some_or]

/-- The search goes on at the end of a match. -/
theorem findAll_of_find? {last : Option Char} {cs : List Char} (hwidth : 0 < p.width)
    (h : p.find? last cs = some m) : p.findAll last cs = m :: p.findAll m.last m.rest := by
  have hlt : m.rest.length < cs.length := by
    have := length_of_find? h
    omega
  rw [findAll, h]
  simp only [hlt, if_true]

/-- The search ends where there is no match. -/
theorem findAll_of_find?_eq_none {last : Option Char} {cs : List Char}
    (h : p.find? last cs = none) : p.findAll last cs = [] := by
  rw [findAll, h]

/-- Two searches with the same first match have the same matches. -/
theorem findAll_congr {last last' : Option Char} {cs cs' : List Char} (hwidth : 0 < p.width)
    (h : p.find? last cs = p.find? last' cs') : p.findAll last cs = p.findAll last' cs' := by
  cases hfind : p.find? last cs with
  | none => rw [findAll_of_find?_eq_none hfind, findAll_of_find?_eq_none (h ▸ hfind)]
  | some m =>
      have hfind' : p.find? last' cs' = some m := h.symm.trans hfind
      rw [findAll_of_find? hwidth hfind, findAll_of_find? hwidth hfind']

/-! ## Lines -/

/-- A sequence is matched part by part. -/
theorem run_sequence_append (ps qs : List Pattern) (next : Matched → Option α) (m : Matched) :
    (sequence (ps ++ qs)).run next m = (sequence ps).run ((sequence qs).run next) m := by
  induction ps generalizing m with
  | nil => rfl
  | cons p ps ih =>
      have hnext : (sequence (ps ++ qs)).run next = (sequence ps).run ((sequence qs).run next) :=
        funext ih
      rw [List.cons_append, sequence_cons, sequence_cons, run, run, hnext]

/-- A pattern that begins with the start of a line is not found elsewhere. -/
theorem run_eq_none_of_atLineStart (ps : List Pattern) (h : m.atLineStart = false) :
    (sequence (lineStart :: ps)).run next m = none := by
  rw [sequence_cons, run, run, h]
  rfl

/-- A pattern that ends with the end of a line is found there. -/
theorem atLineEnd_of_run {ps : List Pattern} (hlast : ps.getLast? = some lineEnd)
    (h : (sequence ps).run some m = some r) : r.atLineEnd = true := by
  obtain ⟨before, rfl⟩ := List.getLast?_eq_some_iff.mp hlast
  rw [run_sequence_append] at h
  obtain ⟨m', -, hend⟩ := exists_of_run h
  simp only [sequence_cons, run] at hend
  split at hend
  · next hline =>
    obtain rfl := Option.some.inj hend
    exact hline
  · cases hend

/-! ## What the rest of a text leads to -/

/-- With these groups only the text that comes next decides how a match goes on. -/
def LeadsTo (next : Matched → Option α) (groups : List (Nat × List Char))
    (result : List Char → Option α) : Prop :=
  ∀ last cs, next ⟨last, cs, groups⟩ = result cs

/-- What the longest run leads to that can be gone on with. -/
def longest (accepts : Char → Bool) (result : List Char → Option α) : List Char → Option α
  | [] => result []
  | c :: cs =>
    if accepts c then (longest accepts result cs).or (result (c :: cs)) else result (c :: cs)

/-- What the shortest run leads to that can be gone on with. -/
def shortest (accepts : Char → Bool) (result : List Char → Option α) : List Char → Option α
  | [] => result []
  | c :: cs => (result (c :: cs)).or (if accepts c then shortest accepts result cs else none)

/-- A run is kept whole: with a part of it given back, the match cannot go on, or it could have gone
on with the whole run as well. -/
def Keeps (accepts : Char → Bool) (result : List Char → Option α) : Prop :=
  ∀ c cs, accepts c = true →
    result (c :: cs) = none ∨ (result ((c :: cs).dropWhile accepts)).isSome

variable {groups : List (Nat × List Char)} {result : List Char → Option α}

/-- A run is kept before what cannot begin with one of its characters. -/
theorem Keeps.of_none (h : ∀ c cs, accepts c = true → result (c :: cs) = none) :
    Keeps accepts result :=
  fun c cs hc => .inl (h c cs hc)

/-- What is made of a match does not decide whether a run is kept. -/
theorem Keeps.map (h : Keeps accepts result) (f : α → β) :
    Keeps accepts fun cs => (result cs).map f :=
  fun c cs hc => (h c cs hc).imp (Option.map_eq_none_iff.mpr ·) fun hsome =>
    Option.isSome_map.trans hsome

/-- A run that is kept whole is the longest there is. -/
theorem Keeps.longest_eq (h : Keeps accepts result) (cs : List Char) :
    longest accepts result cs = result (cs.dropWhile accepts) := by
  induction cs with
  | nil => rfl
  | cons c cs ih =>
      by_cases hc : accepts c = true
      · have hkept := h c cs hc
        rw [List.dropWhile_cons_of_pos hc] at hkept
        rw [longest, if_pos hc, ih, List.dropWhile_cons_of_pos hc]
        rcases hkept with hnone | hsome
        · rw [hnone, Option.or_none]
        · exact Option.or_of_isSome hsome
      · rw [longest, if_neg hc, List.dropWhile_cons_of_neg hc]

/-- The end of a line is seen from the text that comes next. -/
theorem LeadsTo.lineEnd (h : LeadsTo next groups result) :
    LeadsTo (lineEnd.run next) groups fun cs =>
      if cs.head?.all (· == '\n') then result cs else none := by
  intro last cs
  rw [run, h last cs]
  rfl

theorem LeadsTo.either {q : Pattern} {result' : List Char → Option α}
    (h : LeadsTo (p.run next) groups result) (h' : LeadsTo (q.run next) groups result') :
    LeadsTo ((either p q).run next) groups fun cs => (result cs).or (result' cs) := by
  intro last cs
  rw [run, h last cs, h' last cs]

/-- A run of many characters leads where the longest leads that can be gone on with. -/
theorem LeadsTo.longest (h : LeadsTo next groups result) (accepts : Char → Bool) :
    LeadsTo ((Pattern.many accepts).run next) groups (Pattern.longest accepts result) := by
  intro last cs
  induction cs generalizing last with
  | nil => exact h last []
  | cons c cs ih =>
      have hmore : runMany accepts next groups (some c) cs = _ := ih (some c)
      simp only [run, runMany, Pattern.longest, hmore, h last (c :: cs)]

/-- A run of few characters leads where the shortest leads that can be gone on with. -/
theorem LeadsTo.shortest (h : LeadsTo next groups result) (accepts : Char → Bool) :
    LeadsTo ((Pattern.few accepts).run next) groups (Pattern.shortest accepts result) := by
  intro last cs
  induction cs generalizing last with
  | nil => exact h last []
  | cons c cs ih =>
      have hmore : runFew accepts next groups (some c) cs = _ := ih (some c)
      simp only [run, runFew, Pattern.shortest, hmore, h last (c :: cs)]

/-- A run that is kept leads on from behind all of its characters. -/
theorem LeadsTo.many (h : LeadsTo next groups result) (hkeeps : Keeps accepts result) :
    LeadsTo ((Pattern.many accepts).run next) groups fun cs => result (cs.dropWhile accepts) :=
  fun last cs => (h.longest accepts last cs).trans (hkeeps.longest_eq cs)

/-- So does one of at least a character, where the text starts with one. -/
theorem LeadsTo.oneOrMore (h : LeadsTo next groups result) (hkeeps : Keeps accepts result) :
    LeadsTo ((oneOrMore accepts).run next) groups fun cs =>
      if (cs.takeWhile accepts).isEmpty then none else result (cs.dropWhile accepts) := by
  intro last cs
  cases cs with
  | nil => rfl
  | cons c cs =>
      by_cases hc : accepts c = true
      · have hmore : (Pattern.many accepts).run next ⟨some c, cs, groups⟩ =
            result (cs.dropWhile accepts) := h.many hkeeps (some c) cs
        simp only [Pattern.oneOrMore, run, if_pos hc, List.takeWhile_cons_of_pos hc,
          List.dropWhile_cons_of_pos hc, List.isEmpty_cons]
        exact hmore
      · simp only [Pattern.oneOrMore, run, if_neg hc, List.takeWhile_cons_of_neg hc,
          List.isEmpty_nil, if_true]

/-- A fixed text leads on from behind itself, where the text starts with it. -/
theorem LeadsTo.literal (h : LeadsTo next groups result) (word : String) :
    LeadsTo ((literal word).run next) groups fun cs =>
      (word.toList.isPrefixOf? cs).bind result := by
  unfold Pattern.literal
  intro last cs
  induction word.toList generalizing last cs with
  | nil => exact h last cs
  | cons d ds ih =>
      cases cs with
      | nil => rfl
      | cons c cs =>
          have hmore := ih (some c) cs
          by_cases hc : d = c
          · subst hc
            simpa only [List.map_cons, sequence_cons, run, beq_self_eq_true, if_true,
              List.isPrefixOf?] using hmore
          · simp [sequence_cons, run, List.isPrefixOf?, hc, Ne.symm hc]

/-- What is captured is known from the text that was there before it. -/
theorem LeadsTo.capture {result : List Char → List Char → Option α} {number : Nat}
    (h : ∀ taken, LeadsTo next ((number, taken) :: groups) (result taken)) (cs : List Char) :
    LeadsTo (fun m => next (m.capture number cs)) groups fun rest =>
      result (cs.take (cs.length - rest.length)) rest :=
  fun last rest => h _ last rest

/-- A captured run, with what its characters lead to. -/
theorem LeadsTo.group {result : List Char → List Char → Option α} {number : Nat}
    (h : ∀ taken, LeadsTo next ((number, taken) :: groups) (result taken))
    (hkeeps : ∀ taken taken' c cs, accepts c = true → result taken (c :: cs) = none ∨
      (result taken' ((c :: cs).dropWhile accepts)).isSome) :
    LeadsTo ((Pattern.group number (.oneOrMore accepts)).run next) groups fun cs =>
      if (cs.takeWhile accepts).isEmpty then none
      else result (cs.takeWhile accepts) (cs.dropWhile accepts) := by
  intro last cs
  have hkept : Keeps accepts fun rest => result (cs.take (cs.length - rest.length)) rest :=
    fun c rest hc => hkeeps _ _ c rest hc
  have hrun := (LeadsTo.capture h cs).oneOrMore hkept last cs
  have htaken : cs.take (cs.length - (cs.dropWhile accepts).length) = cs.takeWhile accepts := by
    have hlength : (cs.takeWhile accepts).length + (cs.dropWhile accepts).length = cs.length := by
      rw [← List.length_append, List.takeWhile_append_dropWhile]
    rw [← hlength, Nat.add_sub_cancel]
    have htake := List.prefix_iff_eq_take.mp <| List.takeWhile_prefix (l := cs) accepts
    exact htake.symm
  simp only [htaken] at hrun
  exact hrun

end Pattern

end RobotCell
