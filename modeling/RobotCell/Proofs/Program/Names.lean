import Mathlib.Data.List.Forall2
import RobotCell.Proofs.Program.Assembly

/-!
# RobotCell.Proofs.Program.Names

The names that several calls declare.

The names of one set are apart, but nothing stands between the name of a set and a number, so that
`p` and `10` make the same name as `p1` and `0`.  Two stems share a name exactly when they are the
same, or when one is the other with a number behind it and that other has items enough
(`itemName_meet_iff`).  The names of all sets, and the data that a controller finds in a module of
them, are apart exactly when no two calls clash in this way (`names_nodup_iff`).
-/

namespace RobotCell

/-! ## Digits -/

/-- Digits before other digits of a number are a number, at most a tenth of it. -/
theorem exists_of_natDigits_eq_append {n : Nat} {front back : List Char}
    (h : natDigits n = front ++ back) (hfront : front ≠ []) (hback : back ≠ []) :
    ∃ k, 0 < k ∧ 10 * k ≤ n ∧ front = natDigits k := by
  induction n using Nat.strongRecOn generalizing back with
  | _ n ih =>
    rcases Nat.lt_or_ge n 10 with hlt | hle
    · have hone : (front ++ back).length = 1 := by
        rw [← h, natDigits, Nat.toDigits_of_lt_base hlt]
        rfl
      have hfront' := List.length_pos_iff.mpr hfront
      have hback' := List.length_pos_iff.mpr hback
      rw [List.length_append] at hone
      omega
    · rw [natDigits, Nat.toDigits_of_base_le (by decide) hle] at h
      -- the last digit of the number is the last of the back
      obtain rfl | ⟨middle, c, rfl⟩ := List.eq_nil_or_concat' back
      · contradiction
      rw [← List.append_assoc] at h
      have hdigits : natDigits (n / 10) = front ++ middle := (List.append_inj' h rfl).1
      by_cases hmiddle : middle = []
      · rw [hmiddle, List.append_nil] at hdigits
        exact ⟨n / 10, by omega, by omega, hdigits.symm⟩
      · obtain ⟨k, hpos, hk, hnumber⟩ := ih (n / 10) (by omega) hdigits hmiddle
        exact ⟨k, hpos, by omega, hnumber⟩

/-- A zero behind the digits of a number is ten times the number. -/
theorem natDigits_ten_mul {k : Nat} (h : 0 < k) :
    natDigits (10 * k) = natDigits k ++ natDigits 0 := by
  have hdigits := Nat.toDigits_append_toDigits (b := 10) (d := 0) (by decide) h (by decide)
  rw [Nat.add_zero] at hdigits
  exact hdigits.symm

/-! ## Stems -/

theorem toList_itemName (p : String) (i : Nat) :
    (itemName p i).toList = p.toList ++ natDigits i := by
  rw [itemName, String.toList_append, toList_toString]

/-- The second stem is the first with a number behind it, and ten times this number is among the
first `m` positions. -/
def Extends (p : String) (m : Nat) (q : String) : Prop :=
  ∃ k, 0 < k ∧ 10 * k < m ∧ q = itemName p k

theorem extends_of_append {p q : String} {i j m : Nat} {number : List Char} (hi : i < m)
    (hq : q.toList = p.toList ++ number) (hdigits : natDigits i = number ++ natDigits j)
    (hnumber : number ≠ []) : Extends p m q := by
  obtain ⟨k, hpos, hk, rfl⟩ := exists_of_natDigits_eq_append hdigits hnumber (natDigits_ne_nil j)
  refine ⟨k, hpos, by omega, String.toList_inj.mp ?_⟩
  rw [hq, toList_itemName]

/-- A stem that extends another starts with one of its names. -/
theorem Extends.exists_itemName {p q : String} {m : Nat} (h : Extends p m q) :
    ∃ i < m, itemName p i = itemName q 0 := by
  obtain ⟨k, hpos, hk, rfl⟩ := h
  refine ⟨10 * k, hk, String.toList_inj.mp ?_⟩
  rw [toList_itemName, toList_itemName, toList_itemName, natDigits_ten_mul hpos, List.append_assoc]

/-- **Two stems share a name** among their first positions exactly when they are the same or one
extends the other. -/
theorem itemName_meet_iff {p q : String} {m n : Nat} (hm : 0 < m) (hn : 0 < n) :
    (∃ i < m, ∃ j < n, itemName p i = itemName q j) ↔ p = q ∨ Extends p m q ∨ Extends q n p := by
  constructor
  · rintro ⟨i, hi, j, hj, h⟩
    have hchars := congrArg String.toList h
    rw [toList_itemName, toList_itemName] at hchars
    -- one stem starts the other, and what is left of the other starts the number of the one
    rcases List.append_eq_append_iff.mp hchars with ⟨number, hq, hdigits⟩ | ⟨number, hp, hdigits⟩
    · by_cases hnumber : number = []
      · rw [hnumber, List.append_nil] at hq
        exact .inl (String.toList_inj.mp hq.symm)
      · exact .inr (.inl (extends_of_append hi hq hdigits hnumber))
    · by_cases hnumber : number = []
      · rw [hnumber, List.append_nil] at hp
        exact .inl (String.toList_inj.mp hp)
      · exact .inr (.inr (extends_of_append hj hp hdigits hnumber))
  · rintro (rfl | hextends | hextends)
    · exact ⟨0, hm, 0, hn, rfl⟩
    · obtain ⟨i, hi, hname⟩ := hextends.exists_itemName
      exact ⟨i, hi, 0, hn, hname⟩
    · obtain ⟨j, hj, hname⟩ := hextends.exists_itemName
      exact ⟨0, hm, j, hj, hname.symm⟩

/-! ## Calls -/

namespace CompileCall

/-- What the numbers of a call are put behind. -/
def stems : CompileCall → List String
  | .moveL _ m | .moveJ _ m | .moveAbsJ _ m => [m.set]
  | .moveC _ _ m => ["cir" ++ m.set, "to" ++ m.set]
  | .indAMove _ _ _ _ set => [set]

/-- The names that a call declares: at each position, one for each stem. -/
def names (call : CompileCall) : List String :=
  (List.range call.size).flatMap fun i => call.stems.map (itemName · i)

/-- Two calls clash when names of two of their stems meet. -/
def Clashes (a b : CompileCall) : Prop :=
  ∃ p ∈ a.stems, ∃ q ∈ b.stems, p = q ∨ Extends p a.size q ∨ Extends q b.size p

theorem mem_names_iff {call : CompileCall} {name : String} :
    name ∈ call.names ↔ ∃ i < call.size, ∃ p ∈ call.stems, itemName p i = name := by
  simp [names]

/-- Calls with targets declare no common name exactly when they do not clash. -/
theorem disjoint_names_iff {a b : CompileCall} (ha : 0 < a.size) (hb : 0 < b.size) :
    (∀ x ∈ a.names, ∀ y ∈ b.names, x ≠ y) ↔ ¬a.Clashes b := by
  constructor
  · rintro h ⟨p, hp, q, hq, hmeet⟩
    obtain ⟨i, hi, j, hj, hname⟩ := (itemName_meet_iff ha hb).mpr hmeet
    exact h _ (mem_names_iff.mpr ⟨i, hi, p, hp, rfl⟩) _ (mem_names_iff.mpr ⟨j, hj, q, hq, rfl⟩)
      hname
  · intro h x hx y hy hxy
    obtain ⟨i, hi, p, hp, rfl⟩ := mem_names_iff.mp hx
    obtain ⟨j, hj, q, hq, rfl⟩ := mem_names_iff.mp hy
    exact h ⟨p, hp, q, hq, (itemName_meet_iff ha hb).mp ⟨i, hi, j, hj, hxy⟩⟩

end CompileCall

/-! ## Compiled sets -/

/-- The same at each position of two lists, one of them the positions. -/
theorem map_mapIdx_eq_map_range {α β γ : Type} {f : Nat → α → β} {g : β → γ} {h : Nat → γ}
    (hfg : ∀ i a, g (f i a) = h i) (as : List α) :
    (as.mapIdx f).map g = (List.range as.length).map h := by
  refine List.ext_getElem (by simp) fun i _ _ => ?_
  simp [hfg]

/-- A set whose declarations put their positions behind the same stems. -/
theorem CompiledSet.Walked.names_eq {α : Type} {set : CompiledSet} {items : List α}
    {R : Nat → α → Declaration → Instruction → Prop} (h : set.Walked items R) (stems : List String)
    (hR : ∀ i item d s, R i item d s → d.names = stems.map (itemName · i)) :
    set.names = (List.range items.length).flatMap fun i => stems.map (itemName · i) := by
  have hnames : set.declarations.map (·.names) =
      (List.range items.length).map fun i => stems.map (itemName · i) := by
    refine List.ext_getElem (by simp [h.declarations_length]) fun i hi _ => ?_
    rw [List.length_map] at hi
    obtain ⟨item, s, hs⟩ := h.exists_of_declaration (List.getElem?_eq_getElem hi)
    simp [hR i item _ s hs]
  rw [CompiledSet.names, List.flatMap_def, hnames, List.flatMap_def]

namespace CompileCall

variable {c : Compiler} {call : CompileCall} {set : CompiledSet}

/-- A call that succeeds has targets. -/
theorem size_pos_of_run (h : call.run c = .ok set) : 0 < call.size := by
  refine Nat.pos_of_ne_zero fun hsize => ?_
  cases call with
  | moveL targets m | moveJ targets m | moveAbsJ targets m =>
      obtain rfl := List.eq_nil_of_length_eq_zero hsize
      cases h
  | moveC via destinations m =>
      obtain rfl := List.eq_nil_of_length_eq_zero hsize
      cases h
  | indAMove unit axes positions speeds name =>
      obtain rfl := List.eq_nil_of_length_eq_zero hsize
      cases h

theorem names_of_run (h : call.run c = .ok set) : set.names = call.names := by
  cases call with
  | moveL targets m | moveJ targets m | moveAbsJ targets m =>
      have hnames := (Compiler.moves_walked h).names_eq [m.set] fun _ _ _ _ hs => hs.data.names
      rwa [List.length_map] at hnames
  | moveC via destinations m =>
      obtain ⟨hlen, hwalked⟩ := Compiler.moveC_walked h
      have hnames :=
        hwalked.names_eq ["cir" ++ m.set, "to" ++ m.set] fun _ _ _ _ hs => hs.data.names
      rwa [List.length_zip, hlen, Nat.min_self] at hnames
  | indAMove unit axes positions speeds name =>
      exact (Compiler.indAMove_walked h).names_eq [name] fun _ _ _ _ hs => hs.data.names

/-- The names of one call are apart. -/
theorem nodup_names (h : call.run c = .ok set) : call.names.Nodup := by
  rw [← names_of_run h]
  cases call with
  | moveL | moveJ | moveAbsJ => exact Compiler.nodup_names_moves h
  | moveC => exact Compiler.nodup_names_moveC h
  | indAMove => exact Compiler.nodup_names_indAMove h

/-- Data that go by the same stems at each position. -/
theorem map_name_flatten_mapIdx {α : Type} {items : List α} {found : Nat → α → List ProgramDatum}
    {stems : List String}
    (h : ∀ i a, (found i a).map ProgramDatum.name = stems.map (itemName · i)) :
    (items.mapIdx found).flatten.map ProgramDatum.name =
      (List.range items.length).flatMap fun i => stems.map (itemName · i) := by
  rw [List.map_flatten, map_mapIdx_eq_map_range h, List.flatMap_def]

theorem map_name_targetData (set : String) (targets : List Target) :
    (targetData set targets).map ProgramDatum.name =
      (List.range targets.length).flatMap fun i => [set].map (itemName · i) := by
  rw [targetData, ← flatten_mapIdx_singleton]
  exact map_name_flatten_mapIdx fun _ _ => rfl

/-- The data of a call go by its names. -/
theorem map_name_data (h : call.run c = .ok set) :
    call.data.map ProgramDatum.name = call.names := by
  cases call with
  | moveL targets m | moveJ targets m | moveAbsJ targets m =>
      rw [data, map_name_targetData, List.length_map]
      rfl
  | moveC via destinations m =>
      obtain ⟨hlen, -⟩ := Compiler.moveC_walked h
      have hnames : (moveC via destinations m).data.map ProgramDatum.name =
          (List.range (via.zip destinations).length).flatMap fun i =>
            ["cir" ++ m.set, "to" ++ m.set].map (itemName · i) :=
        map_name_flatten_mapIdx fun _ _ => rfl
      rwa [List.length_zip, hlen, Nat.min_self] at hnames
  | indAMove unit axes positions speeds name =>
      rw [data, ← flatten_mapIdx_singleton]
      exact map_name_flatten_mapIdx fun _ _ => rfl

end CompileCall

/-! ## Programs of several calls -/

/-- The calls succeed, each with its set. -/
def RunsTo (c : Compiler) (calls : List CompileCall) (sets : List CompiledSet) : Prop :=
  List.Forall₂ (fun call set => call.run c = .ok set) calls sets

namespace RunsTo

variable {c : Compiler} {calls : List CompileCall} {sets : List CompiledSet}

theorem names_eq (h : RunsTo c calls sets) :
    sets.flatMap CompiledSet.names = calls.flatMap CompileCall.names := by
  induction h with
  | nil => rfl
  | cons hrun _ ih =>
      rw [List.flatMap_cons, List.flatMap_cons, CompileCall.names_of_run hrun, ih]

theorem map_name_data (h : RunsTo c calls sets) :
    (calls.flatMap CompileCall.data).map ProgramDatum.name = calls.flatMap CompileCall.names := by
  induction h with
  | nil => rfl
  | cons hrun _ ih =>
      rw [List.flatMap_cons, List.flatMap_cons, List.map_append, CompileCall.map_name_data hrun, ih]

theorem exists_run (h : RunsTo c calls sets) : ∀ call ∈ calls, ∃ set, call.run c = .ok set := by
  induction h with
  | nil => simp
  | cons hrun _ ih => exact List.forall_mem_cons.mpr ⟨⟨_, hrun⟩, ih⟩

/-- The names of all calls are apart exactly when no two calls clash. -/
theorem nodup_iff (h : RunsTo c calls sets) :
    (calls.flatMap CompileCall.names).Nodup ↔ calls.Pairwise fun a b => ¬a.Clashes b := by
  have hdisjoint : ∀ a ∈ calls, ∀ b ∈ calls,
      (∀ x ∈ a.names, ∀ y ∈ b.names, x ≠ y) ↔ ¬a.Clashes b := by
    intro a ha b hb
    obtain ⟨_, ha'⟩ := h.exists_run a ha
    obtain ⟨_, hb'⟩ := h.exists_run b hb
    exact CompileCall.disjoint_names_iff (CompileCall.size_pos_of_run ha')
      (CompileCall.size_pos_of_run hb')
  rw [List.nodup_iff_pairwise_ne, List.pairwise_flatMap]
  constructor
  · rintro ⟨-, hapart⟩
    exact hapart.imp_of_mem fun ha hb hne => (hdisjoint _ ha _ hb).mp hne
  · intro hapart
    refine ⟨fun call hcall => ?_, hapart.imp_of_mem fun ha hb hne => (hdisjoint _ ha _ hb).mpr hne⟩
    obtain ⟨_, hrun⟩ := h.exists_run call hcall
    exact List.nodup_iff_pairwise_ne.mp (CompileCall.nodup_names hrun)

/-- The sets pushed one after another are the module of the calls. -/
theorem assemble_eq (h : RunsTo c calls sets) :
    ProgramPart.assemble (calls.map (.compiled c)) = .ok (sets.foldl ProgramModule.pushSet {}) := by
  have hpush (m : ProgramModule) : (calls.map (.compiled c)).foldlM ProgramPart.push m =
      .ok (sets.foldl ProgramModule.pushSet m) := by
    induction h generalizing m with
    | nil => rfl
    | cons hrun _ ih =>
        rw [List.map_cons, List.foldlM_cons, ProgramPart.push, hrun]
        exact ih _
  exact hpush {}

/-- A controller finds the names of the calls in the module of their sets. -/
theorem scan_eq (h : RunsTo c calls sets) (hcalls : ∀ call ∈ calls, call.Scannable c) :
    ∃ loaded, LoadedModule.scan (sets.foldl ProgramModule.pushSet {}).render = .ok loaded ∧
      loaded.items.map (·.name) = calls.flatMap CompileCall.names := by
  have hparts : ∀ part ∈ calls.map (ProgramPart.compiled c), part.Scannable :=
    List.forall_mem_map.mpr hcalls
  refine ⟨_, ProgramPart.scan_assembled hparts h.assemble_eq, ?_⟩
  have hnone (f : ProgramPart → List ProgramDatum) (hf : ∀ call, f (.compiled c call) = []) :
      (calls.map (ProgramPart.compiled c)).flatMap f = [] := by
    simp [hf]
  have hdata : ProgramPart.data (calls.map (ProgramPart.compiled c)) =
      calls.flatMap CompileCall.data := by
    rw [ProgramPart.data, hnone _ fun _ => rfl, hnone _ fun _ => rfl]
    simp [List.flatMap_map, ProgramPart.declarations]
  rw [hdata, List.map_map]
  exact h.map_name_data

end RunsTo

/-- **Names are apart as far as their numbers allow**: the sets of calls that succeed declare no
name twice, and neither does a module of them on a controller, exactly when no two calls clash. -/
theorem names_nodup_iff {c : Compiler} {calls : List CompileCall} {sets : List CompiledSet}
    (h : RunsTo c calls sets) :
    ((sets.flatMap CompiledSet.names).Nodup ↔ calls.Pairwise fun a b => ¬a.Clashes b) ∧
    ((∀ call ∈ calls, call.Scannable c) →
      ∃ loaded, LoadedModule.scan (sets.foldl ProgramModule.pushSet {}).render = .ok loaded ∧
        ((loaded.items.map (·.name)).Nodup ↔ calls.Pairwise fun a b => ¬a.Clashes b)) := by
  refine ⟨h.names_eq ▸ h.nodup_iff, fun hcalls => ?_⟩
  obtain ⟨loaded, hscan, hnames⟩ := h.scan_eq hcalls
  exact ⟨loaded, hscan, hnames ▸ h.nodup_iff⟩

/-- Joint moves to one place, `n` times. -/
def CompileCall.homes (set : String) (n : Nat) : CompileCall :=
  .moveAbsJ (List.replicate n ⟨Vector.replicate 6 0, .unused⟩)
    ⟨set, [.symbol "v100"], [.symbol "fine"], {}⟩

theorem CompileCall.exists_run_of_isSome {c : Compiler} {call : CompileCall}
    (h : (call.run c).toOption.isSome = true) : ∃ set, call.run c = .ok set := by
  cases hrun : call.run c with
  | error e => simp [hrun, Except.toOption] at h
  | ok set => exact ⟨set, rfl⟩

/-- Ten moves of `p` leave the first name of `p1` alone, and the eleventh takes it. -/
theorem names_nodup_iff_eleventh :
    ∃ ten eleven one, RunsTo {} [.homes "p" 10, .homes "p1" 1] [ten, one] ∧
      ([ten, one].flatMap CompiledSet.names).Nodup ∧
      RunsTo {} [.homes "p" 11, .homes "p1" 1] [eleven, one] ∧
      ¬([eleven, one].flatMap CompiledSet.names).Nodup ∧
      ∃ loaded, LoadedModule.scan ([eleven, one].foldl ProgramModule.pushSet {}).render =
        .ok loaded ∧ ¬(loaded.items.map (·.name)).Nodup := by
  obtain ⟨ten, hten⟩ : ∃ set, (CompileCall.homes "p" 10).run {} = .ok set :=
    CompileCall.exists_run_of_isSome (by decide +kernel)
  obtain ⟨eleven, heleven⟩ : ∃ set, (CompileCall.homes "p" 11).run {} = .ok set :=
    CompileCall.exists_run_of_isSome (by decide +kernel)
  obtain ⟨one, hone⟩ : ∃ set, (CompileCall.homes "p1" 1).run {} = .ok set :=
    CompileCall.exists_run_of_isSome (by decide +kernel)
  have hapart : ¬(CompileCall.homes "p" 10).Clashes (.homes "p1" 1) := by
    simp only [CompileCall.Clashes, CompileCall.stems, CompileCall.homes, CompileCall.size,
      List.mem_singleton, exists_eq_left, List.length_replicate]
    rintro (heq | ⟨k, hpos, hk, -⟩ | ⟨k, hpos, hk, -⟩)
    · exact absurd heq (by decide)
    · omega
    · omega
  have hclash : (CompileCall.homes "p" 11).Clashes (.homes "p1" 1) :=
    ⟨"p", by decide, "p1", by decide, .inr (.inl ⟨1, by decide, by decide, by decide⟩)⟩
  have hscannable : ∀ call ∈ [CompileCall.homes "p" 11, .homes "p1" 1], call.Scannable {} := by
    decide +kernel
  have hten' : RunsTo {} [.homes "p" 10, .homes "p1" 1] [ten, one] := .cons hten (.cons hone .nil)
  have heleven' : RunsTo {} [.homes "p" 11, .homes "p1" 1] [eleven, one] :=
    .cons heleven (.cons hone .nil)
  obtain ⟨hiff, hmodule⟩ := names_nodup_iff heleven'
  obtain ⟨loaded, hscan, hloaded⟩ := hmodule hscannable
  have hmeet : ¬[CompileCall.homes "p" 11, .homes "p1" 1].Pairwise fun a b => ¬a.Clashes b := by
    simpa using hclash
  exact ⟨ten, eleven, one, hten', (names_nodup_iff hten').1.mpr (by simpa using hapart), heleven',
    fun hnodup => hmeet (hiff.mp hnodup), loaded, hscan, fun hnodup => hmeet (hloaded.mp hnodup)⟩

/-- Two sets of different names declare one symbol. -/
theorem different_sets_share_name :
    ∃ first second, (CompileCall.homes "p" 11).run {} = .ok first ∧
      (CompileCall.homes "p1" 1).run {} = .ok second ∧
      (CompileCall.homes "p" 11).set ≠ (CompileCall.homes "p1" 1).set ∧
      "p10" ∈ first.names ∧ "p10" ∈ second.names := by
  obtain ⟨first, hfirst⟩ : ∃ set, (CompileCall.homes "p" 11).run {} = .ok set :=
    CompileCall.exists_run_of_isSome (by decide +kernel)
  obtain ⟨second, hsecond⟩ : ∃ set, (CompileCall.homes "p1" 1).run {} = .ok set :=
    CompileCall.exists_run_of_isSome (by decide +kernel)
  refine ⟨first, second, hfirst, hsecond, by decide, ?_, ?_⟩
  · rw [CompileCall.names_of_run hfirst]
    decide +kernel
  · rw [CompileCall.names_of_run hsecond]
    decide +kernel

end RobotCell
