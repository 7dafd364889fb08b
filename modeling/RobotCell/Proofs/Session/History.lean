/-!
# RobotCell.Proofs.Session.History

What can be said of a history, a list of what happened with the latest last.

`Since p q` says that there was a `p` with no `q` after it, and `Throughout P` relates everything
that happened to all that happened before.  Both are decided one event at a time
(`since_concat_iff`, `throughout_concat_iff`).
-/

namespace RobotCell

variable {α : Type} {p q : α → Prop} {P : List α → α → Prop} {history : List α} {e : α}

/-- Something of the first kind has happened, and nothing of the second kind after it. -/
def Since (p q : α → Prop) (history : List α) : Prop :=
  ∃ earlier e later, history = earlier ++ e :: later ∧ p e ∧ ∀ x ∈ later, ¬q x

/-- Nothing has happened before the first event. -/
theorem not_since_nil : ¬Since p q [] := by
  rintro ⟨earlier, e, later, h, -⟩
  simp at h

/-- The last event either is one of those looked for, or leaves things as they were unless it undoes
them. -/
theorem since_concat_iff : Since p q (history ++ [e]) ↔ p e ∨ Since p q history ∧ ¬q e := by
  constructor
  · rintro ⟨earlier, x, later, h, hp, hq⟩
    cases hlater : later.reverse with
    | nil =>
        obtain rfl := List.reverse_eq_nil_iff.mp hlater
        obtain ⟨-, heq⟩ := List.append_inj' h rfl
        obtain rfl := List.singleton_inj.mp heq
        exact .inl hp
    | cons y ys =>
        obtain rfl := List.reverse_eq_cons_iff.mp hlater
        rw [← List.cons_append, ← List.append_assoc] at h
        obtain ⟨rfl, heq⟩ := List.append_inj' h rfl
        obtain rfl := List.singleton_inj.mp heq
        exact .inr ⟨⟨earlier, x, ys.reverse, rfl, hp,
          fun z hz => hq z (List.mem_append_left _ hz)⟩, hq e (by simp)⟩
  · rintro (hp | ⟨⟨earlier, x, later, rfl, hp, hq⟩, hqe⟩)
    · exact ⟨history, e, [], rfl, hp, by simp⟩
    · refine ⟨earlier, x, later ++ [e], by simp, hp, ?_⟩
      intro z hz
      cases List.mem_append.mp hz with
      | inl hz => exact hq z hz
      | inr hz => rwa [List.mem_singleton.mp hz]

/-- Everything that happened stands in a relation to what happened before it. -/
def Throughout (P : List α → α → Prop) (history : List α) : Prop :=
  ∀ before e after, history = before ++ e :: after → P before e

/-- An empty history has no event that could break a condition. -/
theorem throughout_nil : Throughout P [] := by
  intro before e after h
  simp at h

/-- A condition on every event is checked on the last one with the events before it. -/
theorem throughout_concat_iff :
    Throughout P (history ++ [e]) ↔ Throughout P history ∧ P history e := by
  constructor
  · intro h
    refine ⟨?_, h history e [] rfl⟩
    rintro before x after rfl
    exact h before x (after ++ [e]) (by simp)
  · rintro ⟨hall, hlast⟩ before x after h
    cases hafter : after.reverse with
    | nil =>
        obtain rfl := List.reverse_eq_nil_iff.mp hafter
        obtain ⟨rfl, heq⟩ := List.append_inj' h rfl
        rwa [← List.singleton_inj.mp heq]
    | cons y ys =>
        obtain rfl := List.reverse_eq_cons_iff.mp hafter
        rw [← List.cons_append, ← List.append_assoc] at h
        exact hall before x ys.reverse (List.append_inj' h rfl).1

/-- What is said of an appended history is said of its first part, and of the second with the first
before it. -/
theorem throughout_append_iff {first rest : List α} :
    Throughout P (first ++ rest) ↔
      Throughout P first ∧ Throughout (fun before e => P (first ++ before) e) rest := by
  constructor
  · intro h
    refine ⟨?_, ?_⟩
    · rintro before e after rfl
      exact h before e (after ++ rest) (by simp)
    · rintro before e after rfl
      exact h (first ++ before) e after (by simp)
  · rintro ⟨hfirst, hrest⟩ before e after h
    rcases List.append_eq_append_iff.mp h with ⟨between, rfl, hsplit⟩ | ⟨between, rfl, hsplit⟩
    · exact hrest between e after hsplit
    · cases between with
      | nil => simpa using hrest [] e after hsplit.symm
      | cons x between =>
          obtain ⟨rfl, -⟩ := List.cons.inj hsplit
          exact hfirst before e between rfl

/-- What holds of every event whatever came before it holds throughout. -/
theorem Throughout.of_forall (h : ∀ e ∈ history, ∀ before, P before e) : Throughout P history := by
  rintro before e after rfl
  exact h e (by simp) before

/-- A weaker condition holds throughout as well. -/
theorem Throughout.imp {Q : List α → α → Prop} (h : Throughout P history)
    (himp : ∀ before e, P before e → Q before e) : Throughout Q history :=
  fun before e after heq => himp before e (h before e after heq)

end RobotCell
