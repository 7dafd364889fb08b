import Mathlib.Data.List.MinMax
import RobotCell.Motion.Catalog
import RobotCell.Proofs.Number.Distance

/-!
# RobotCell.Proofs.Motion.Nearest

Which level a value is snapped to.

Both the scan of a catalog and the nearest level are an entry at the least value of a key, the
lowest one of several (`IsLeast`): for the scan the key is the rounded distance
(`picks_iff_isLeast`), for the nearest level the exact one.  Rounding keeps the order of distances,
so the nearest entry is always at the least rounded distance too, and the scan passes it over only
for a lower entry whose distance rounds to the same number (`quantize_nearest_iff`).  Far away from
all levels every distance does, so the scan stops at the lowest level.

What is always taken is the first entry at the least rounded distance, and a level itself is snapped
to its own entry, since no other level is at the distance zero (`quantize_first_least`).
-/

namespace RobotCell

/-! ## Catalogs -/

/-- Levels ascend just when their distances from zero do. -/
theorem strictlyAscending_iff {entries : List CatalogEntry}
    (h : ∀ e ∈ entries, e.level.isFinite = true) :
    strictlyAscending entries = true ↔
      entries.Pairwise fun e f => e.level.toUnits < f.level.toUnits := by
  induction entries with
  | nil => simp [strictlyAscending]
  | cons a entries ih =>
      have hrest := ih fun e he => h e (List.mem_cons_of_mem a he)
      cases entries with
      | nil => simp [strictlyAscending]
      | cons b entries =>
          have hlt : a.level < b.level ↔ a.level.toUnits < b.level.toUnits :=
            Binary64.lt_iff_toUnits (h a (by simp)) (h b (by simp))
          rw [strictlyAscending, Bool.and_eq_true, decide_eq_true_eq, hlt, hrest,
            List.pairwise_cons (a := a)]
          constructor
          · intro ⟨hfirst, hpairs⟩
            refine ⟨fun e he => ?_, hpairs⟩
            rcases List.mem_cons.mp he with rfl | he
            · exact hfirst
            · exact Int.lt_trans hfirst (List.rel_of_pairwise_cons hpairs he)
          · intro ⟨hfirst, hpairs⟩
            exact ⟨hfirst b List.mem_cons_self, hpairs⟩

/-- A list of entries is a catalog when it has an entry and its levels are finite and ascend. -/
theorem catalogDefect?_eq_none_iff {entries : List CatalogEntry} :
    catalogDefect? entries = none ↔ entries ≠ [] ∧
      (∀ e ∈ entries, e.level.isFinite = true) ∧
        entries.Pairwise fun e f => e.level.toUnits < f.level.toUnits := by
  unfold catalogDefect?
  by_cases hnil : entries = []
  · simp [hnil]
  · have hempty : entries.isEmpty = false := by simpa using hnil
    by_cases hfinite : ∀ e ∈ entries, e.level.isFinite = true
    · have hfind : entries.find? (fun e => !e.level.isFinite) = none :=
        List.find?_eq_none.mpr fun e he => by simp [hfinite e he]
      simpa [hempty, hfind, hnil, strictlyAscending_iff hfinite] using fun _ => hfinite
    · obtain ⟨e, hfind⟩ : ∃ e, entries.find? (fun e => !e.level.isFinite) = some e := by
        refine Option.ne_none_iff_exists'.mp fun hnone => hfinite fun e he => ?_
        simpa using List.find?_eq_none.mp hnone e he
      simp [hempty, hfind, hfinite]

namespace Catalog

variable (c : Catalog)

/-- A catalog has an entry. -/
theorem entries_ne_nil : c.entries ≠ [] := (catalogDefect?_eq_none_iff.mp c.sound).1

variable {c}

/-- The levels of a catalog are finite. -/
theorem isFinite_level {e : CatalogEntry} (h : e ∈ c.entries) : e.level.isFinite = true :=
  (catalogDefect?_eq_none_iff.mp c.sound).2.1 e h

/-- Levels are in the order of their distances from zero. -/
theorem level_lt_iff {e f : CatalogEntry} (he : e ∈ c.entries) (hf : f ∈ c.entries) :
    e.level < f.level ↔ e.level.toUnits < f.level.toUnits :=
  Binary64.lt_iff_toUnits (isFinite_level he) (isFinite_level hf)

theorem level_le_iff {e f : CatalogEntry} (he : e ∈ c.entries) (hf : f ∈ c.entries) :
    e.level ≤ f.level ↔ e.level.toUnits ≤ f.level.toUnits :=
  Binary64.le_iff_toUnits (isFinite_level he) (isFinite_level hf)

/-- The places of entries are in the order of their levels. -/
theorem idxOf_le_iff {e f : CatalogEntry} (he : e ∈ c.entries) (hf : f ∈ c.entries) :
    c.entries.idxOf e ≤ c.entries.idxOf f ↔ e.level ≤ f.level := by
  rw [level_le_iff he hf]
  have hascending := (catalogDefect?_eq_none_iff.mp c.sound).2.2
  rw [List.pairwise_iff_getElem] at hascending
  have hei := List.idxOf_lt_length_of_mem he
  have hfi := List.idxOf_lt_length_of_mem hf
  have hforth := hascending _ _ hei hfi
  have hback := hascending _ _ hfi hei
  rw [List.getElem_idxOf, List.getElem_idxOf] at hforth hback
  constructor
  · intro hle
    rcases Nat.eq_or_lt_of_le hle with hsame | hlt
    · rw [List.idxOf_inj he] at hsame
      rw [hsame]
    · exact Int.le_of_lt (hforth hlt)
  · intro hle
    by_contra hlt
    have := hback (Nat.not_le.mp hlt)
    omega

/-- Entries at the same level are the same. -/
theorem eq_of_level_le {e f : CatalogEntry} (he : e ∈ c.entries) (hf : f ∈ c.entries)
    (hle : e.level ≤ f.level) (hge : f.level ≤ e.level) : e = f := by
  have hidx := Nat.le_antisymm ((idxOf_le_iff he hf).mpr hle) ((idxOf_le_iff hf he).mpr hge)
  rwa [List.idxOf_inj he] at hidx

/-! ## Least entries -/

/-- The entry at the least value of a key; of several the one at the lowest level. -/
structure IsLeast (c : Catalog) (key : CatalogEntry → Nat) (e : CatalogEntry) : Prop where
  mem : e ∈ c.entries
  least : ∀ f ∈ c.entries, key e ≤ key f
  lowest : ∀ f ∈ c.entries, key f = key e → e.level ≤ f.level

/-- It is the first entry at the least value of the key. -/
theorem isLeast_iff {key : CatalogEntry → Nat} {e : CatalogEntry} :
    c.IsLeast key e ↔ c.entries.argmin key = some e := by
  rw [List.argmin_eq_some_iff]
  constructor
  · intro h
    refine ⟨h.mem, h.least, fun f hf hle => (idxOf_le_iff h.mem hf).mpr ?_⟩
    exact h.lowest f hf (Nat.le_antisymm hle (h.least f hf))
  · intro ⟨hmem, hleast, hfirst⟩
    refine ⟨hmem, hleast, fun f hf hsame => (idxOf_le_iff hmem hf).mp ?_⟩
    exact hfirst f hf (Nat.le_of_eq hsame)

/-- There is an entry at the least value of a key. -/
theorem exists_isLeast (key : CatalogEntry → Nat) : ∃ e, c.IsLeast key e := by
  have hsome : c.entries.argmin key ≠ none := fun h => c.entries_ne_nil (List.argmin_eq_none.mp h)
  obtain ⟨e, he⟩ := Option.ne_none_iff_exists'.mp hsome
  exact ⟨e, isLeast_iff.mpr he⟩

/-- There is only one such entry. -/
theorem IsLeast.eq {key : CatalogEntry → Nat} {e f : CatalogEntry} (he : c.IsLeast key e)
    (hf : c.IsLeast key f) : e = f :=
  Option.some.inj ((isLeast_iff.mp he).symm.trans (isLeast_iff.mp hf))

/-! ## The scan -/

/-- The distance of an entry after rounding. -/
def roundedGap (v : Binary64) (e : CatalogEntry) : Nat := roundedUnits (e.level.gap v)

variable {v w : Binary64}

/-- The distances that the scan compares are in the order of the rounded ones. -/
theorem distance_le_iff (hv : v.isFinite = true) {e f : CatalogEntry} (he : e ∈ c.entries)
    (hf : f ∈ c.entries) :
    e.distance v ≤ f.distance v ↔ roundedGap v e ≤ roundedGap v f := by
  rw [CatalogEntry.distance, CatalogEntry.distance, Binary64.abs_sub (isFinite_level he) hv,
    Binary64.abs_sub (isFinite_level hf) hv, Binary64.ofRatio_le_iff, roundedGap, roundedGap]

theorem distance_eq_iff (hv : v.isFinite = true) {e f : CatalogEntry} (he : e ∈ c.entries)
    (hf : f ∈ c.entries) :
    e.distance v = f.distance v ↔ roundedGap v e = roundedGap v f := by
  rw [CatalogEntry.distance, CatalogEntry.distance, Binary64.abs_sub (isFinite_level he) hv,
    Binary64.abs_sub (isFinite_level hf) hv, Binary64.ofRatio_eq_iff, roundedGap, roundedGap]

/-- The scan finds the first entry at the least rounded distance. -/
theorem nearestEntry?_eq_argmin (hv : v.isFinite = true) :
    nearestEntry? c.entries v = c.entries.argmin (roundedGap v) := by
  have hprefix : ∀ front, front <+: c.entries →
      nearestEntry? front v = front.argmin (roundedGap v) := by
    intro front hfront
    induction front using List.reverseRecOn with
    | nil => rfl
    | append_singleton front e ih =>
        have hbefore := ih ((List.prefix_append front [e]).trans hfront)
        have he : e ∈ c.entries := hfront.subset (by simp)
        rw [List.argmin_concat, ← hbefore, nearestEntry?, List.foldl_append]
        show nearerEntry v ( nearestEntry? front v) e = _
        cases hbest : nearestEntry? front v with
        | none => rfl
        | some b =>
            have hb : b ∈ front := List.argmin_mem (hbefore.symm.trans hbest)
            have hmem : b ∈ c.entries := hfront.subset (List.mem_append_left [e] hb)
            simp only [nearerEntry, distance_le_iff hv hmem he]
            by_cases hle : roundedGap v b ≤ roundedGap v e
            · rw [if_pos hle, if_neg (Nat.not_lt.mpr hle)]
            · rw [if_neg hle, if_pos (Nat.not_le.mp hle)]
  exact hprefix c.entries (List.prefix_refl _)

/-- The scan picks the entry at the least rounded distance. -/
theorem picks_iff_isLeast (hv : v.isFinite = true) {e : CatalogEntry} :
    nearestEntry? c.entries v = some e ↔ c.IsLeast (roundedGap v) e := by
  rw [nearestEntry?_eq_argmin hv, isLeast_iff]

/-- A value becomes the symbol of the entry that is picked. -/
theorem quantize_eq (hv : v.isFinite = true) {e : CatalogEntry}
    (h : nearestEntry? c.entries v = some e) : c.quantize v = .ok e.symbol := by
  rw [Catalog.quantize, RobotCell.quantize, if_pos hv, h]

/-! ## The nearest level -/

/-- The entry at the least exact distance from a value; of two equally near the lower one. -/
def IsNearest (c : Catalog) (v : Binary64) (e : CatalogEntry) : Prop :=
  c.IsLeast (fun e => e.level.gap v) e

/-- The nearest entry of a larger value is not lower. -/
theorem IsNearest.level_le {e f : CatalogEntry} (he : c.IsNearest v e) (hf : c.IsNearest w f)
    (h : v.toUnits ≤ w.toUnits) : e.level ≤ f.level := by
  rw [level_le_iff he.mem hf.mem]
  by_contra hlower
  -- `v` lies above the middle between the two levels, and `w` does not
  have hv := he.least f hf.mem
  have hw := hf.least e he.mem
  have htie : f.level.gap v ≠ e.level.gap v := fun hsame =>
    hlower ((level_le_iff he.mem hf.mem).mp (he.lowest f hf.mem hsame))
  simp only [Binary64.gap] at hv hw htie
  omega

/-- The lowest level is nearest to what is below it. -/
theorem isNearest_of_le_all {e : CatalogEntry} (he : e ∈ c.entries)
    (hlowest : ∀ f ∈ c.entries, e.level ≤ f.level) (h : v.toUnits ≤ e.level.toUnits) :
    c.IsNearest v e := by
  refine ⟨he, fun f hf => ?_, fun f hf _ => hlowest f hf⟩
  have hle := (level_le_iff he hf).mp (hlowest f hf)
  simp only [Binary64.gap]
  omega

/-- The highest level is nearest to what is above it. -/
theorem isNearest_of_all_le {e : CatalogEntry} (he : e ∈ c.entries)
    (hhighest : ∀ f ∈ c.entries, f.level ≤ e.level) (h : e.level.toUnits ≤ v.toUnits) :
    c.IsNearest v e := by
  refine ⟨he, fun f hf => ?_, fun f hf hsame => ?_⟩
  · have hle := (level_le_iff hf he).mp (hhighest f hf)
    simp only [Binary64.gap]
    omega
  · have hle := (level_le_iff hf he).mp (hhighest f hf)
    rw [level_le_iff he hf]
    simp only [Binary64.gap] at hsame
    omega

/-- What a value is snapped to, and the nearest entry. -/
structure Snaps (c : Catalog) (v : Binary64) (picked nearest : CatalogEntry) : Prop where
  picks : nearestEntry? c.entries v = some picked
  quantize_eq : c.quantize v = .ok picked.symbol
  isNearest : c.IsNearest v nearest
  level_le : picked.level ≤ nearest.level
  eq_iff : picked = nearest ↔
    ∀ e ∈ c.entries, e.level < nearest.level → e.distance v ≠ nearest.distance v

/-- What is picked is at most the nearest level, and is it where no lower one is rounded as near. -/
theorem snaps_of_picks (hv : v.isFinite = true) {picked nearest : CatalogEntry}
    (hpicks : nearestEntry? c.entries v = some picked) (hnearest : c.IsNearest v nearest) :
    c.Snaps v picked nearest := by
  have hleast := (picks_iff_isLeast hv).mp hpicks
  -- rounding keeps the order, so the nearest entry is at the least rounded distance as well
  have hsame : roundedGap v nearest = roundedGap v picked :=
    Nat.le_antisymm (roundedUnits_mono (hnearest.least picked hleast.mem))
      (hleast.least nearest hnearest.mem)
  have hle : picked.level ≤ nearest.level := hleast.lowest nearest hnearest.mem hsame
  refine ⟨hpicks, Catalog.quantize_eq hv hpicks, hnearest, hle, ?_⟩
  constructor
  · rintro rfl e he hlower hdistance
    have hnot := hleast.lowest e he ((distance_eq_iff hv he hleast.mem).mp hdistance)
    rw [level_le_iff hleast.mem he] at hnot
    rw [level_lt_iff he hleast.mem] at hlower
    omega
  · intro hapart
    by_contra hne
    refine hapart picked hleast.mem ?_ ((distance_eq_iff hv hleast.mem hnearest.mem).mpr hsame.symm)
    have hstrict : ¬nearest.level ≤ picked.level := fun hge =>
      hne (eq_of_level_le hleast.mem hnearest.mem hle hge)
    rw [level_le_iff hnearest.mem hleast.mem] at hstrict
    rw [level_lt_iff hleast.mem hnearest.mem]
    omega

end Catalog

/-- **A value is snapped to the nearest level unless the distance of a lower one rounds to the same
number.**

The scan never takes a level above the nearest one, and takes a lower one exactly when its distance
rounds to the distance of the nearest.  For values that do not exceed the lowest level this never
happens; for values past the highest level, which is then the nearest, it does.  The nearest level
never falls as the value grows, and the level that is taken never falls to a value that is snapped
to its nearest. -/
theorem quantize_nearest_iff (c : Catalog) :
    (∀ v, v.isFinite = true → ∃ picked nearest, c.Snaps v picked nearest) ∧
      (∀ v, v.isFinite = true → ∀ e ∈ c.entries, (∀ f ∈ c.entries, e.level ≤ f.level) →
        v ≤ e.level → c.Snaps v e e) ∧
      (∀ v, v.isFinite = true → ∀ e ∈ c.entries, (∀ f ∈ c.entries, f.level ≤ e.level) →
        e.level ≤ v → ∃ picked, c.Snaps v picked e) ∧
      ∀ v w, v.isFinite = true → w.isFinite = true → v ≤ w →
        ∀ picked nearest picked' nearest', c.Snaps v picked nearest →
          c.Snaps w picked' nearest' → nearest.level ≤ nearest'.level ∧
            (picked' = nearest' → picked.level ≤ picked'.level) := by
  have hpicks : ∀ v, v.isFinite = true → ∃ picked, nearestEntry? c.entries v = some picked := by
    intro v hv
    obtain ⟨picked, hleast⟩ := c.exists_isLeast (Catalog.roundedGap v)
    exact ⟨picked, (Catalog.picks_iff_isLeast hv).mpr hleast⟩
  refine ⟨fun v hv => ?_, fun v hv e he hlowest hle => ?_, fun v hv e he hhighest hle => ?_,
    fun v w hv hw hle picked nearest picked' nearest' h h' => ?_⟩
  · obtain ⟨picked, hpicked⟩ := hpicks v hv
    obtain ⟨nearest, hnearest⟩ := c.exists_isLeast fun e => e.level.gap v
    exact ⟨picked, nearest, Catalog.snaps_of_picks hv hpicked hnearest⟩
  · obtain ⟨picked, hpicked⟩ := hpicks v hv
    have hunits := (Binary64.le_iff_toUnits hv (Catalog.isFinite_level he)).mp hle
    have hsnaps := Catalog.snaps_of_picks hv hpicked (Catalog.isNearest_of_le_all he hlowest hunits)
    have hmem := ((Catalog.picks_iff_isLeast hv).mp hpicked).mem
    obtain rfl := Catalog.eq_of_level_le hmem he hsnaps.level_le (hlowest picked hmem)
    exact hsnaps
  · obtain ⟨picked, hpicked⟩ := hpicks v hv
    have hunits := (Binary64.le_iff_toUnits (Catalog.isFinite_level he) hv).mp hle
    exact ⟨picked, Catalog.snaps_of_picks hv hpicked
      (Catalog.isNearest_of_all_le he hhighest hunits)⟩
  · have hunits := (Binary64.le_iff_toUnits hv hw).mp hle
    have hnearest := h.isNearest.level_le h'.isNearest hunits
    refine ⟨hnearest, ?_⟩
    rintro rfl
    have hmem := ((Catalog.picks_iff_isLeast hv).mp h.picks).mem
    have hlevel := (Catalog.level_le_iff hmem h.isNearest.mem).mp h.level_le
    rw [Catalog.level_le_iff h.isNearest.mem h'.isNearest.mem] at hnearest
    rw [Catalog.level_le_iff hmem h'.isNearest.mem]
    omega

/-- Two levels and the middle between them. -/
def Catalog.tenTwenty : Catalog where
  entries := [⟨10, "v10"⟩, ⟨20, "v20"⟩]
  sound := by decide +kernel

/-- Between two levels the middle is snapped to the lower one; below and past them the nearer one
is taken, and none of the levels falls. -/
theorem quantize_nearest_iff_middle :
    (15 : Binary64).isFinite = true ∧ (10 : Binary64) ≤ 15 ∧
      Catalog.tenTwenty.Snaps 15 ⟨10, "v10"⟩ ⟨10, "v10"⟩ ∧
      Catalog.tenTwenty.Snaps 3 ⟨10, "v10"⟩ ⟨10, "v10"⟩ ∧
      Catalog.tenTwenty.Snaps 1000000 ⟨20, "v20"⟩ ⟨20, "v20"⟩ ∧
      (10 : Binary64) ≤ 20 := by
  obtain ⟨hsnaps, hlowest, hhighest, hmono⟩ := quantize_nearest_iff .tenTwenty
  have hten : Catalog.tenTwenty.Snaps 15 ⟨10, "v10"⟩ ⟨10, "v10"⟩ := by
    obtain ⟨picked, nearest, h⟩ := hsnaps 15 (by decide +kernel)
    have hpicks : nearestEntry? Catalog.tenTwenty.entries 15 = some ⟨10, "v10"⟩ := by
      decide +kernel
    have hnearest : Catalog.tenTwenty.IsNearest 15 ⟨10, "v10"⟩ :=
      ⟨by decide +kernel, by decide +kernel, by decide +kernel⟩
    obtain rfl := Option.some.inj (h.picks.symm.trans hpicks)
    obtain rfl := h.isNearest.eq hnearest
    exact h
  have htwenty : Catalog.tenTwenty.Snaps 1000000 ⟨20, "v20"⟩ ⟨20, "v20"⟩ := by
    obtain ⟨picked, h⟩ := hhighest 1000000 (by decide +kernel) ⟨20, "v20"⟩ (by decide +kernel)
      (by decide +kernel) (by decide +kernel)
    obtain rfl : picked = ⟨20, "v20"⟩ := h.eq_iff.mpr (by decide +kernel)
    exact h
  have hthree := hlowest 3 (by decide +kernel) ⟨10, "v10"⟩ (by decide +kernel) (by decide +kernel)
    (by decide +kernel)
  have hlevels := hmono 15 1000000 (by decide +kernel) (by decide +kernel) (by decide +kernel)
    _ _ _ _ hten htwenty
  exact ⟨by decide +kernel, by decide +kernel, hten, hthree, htwenty, hlevels.2 rfl⟩

/-- Far past the highest of the predefined speeds the lowest one is taken: all distances round to
the same number.  So the speed falls as the value grows. -/
theorem highest_level_is_passed_over :
    (100000000000000000000 : Binary64).isFinite = true ∧
      (∀ e ∈ Catalog.standardSpeeds.entries, e.level ≤ 100000000000000000000) ∧
      Catalog.standardSpeeds.IsNearest 100000000000000000000 ⟨7000, "v7000"⟩ ∧
      Catalog.standardSpeeds.quantize 100000000000000000000 = .ok "v5" ∧
      (1000000 : Binary64) ≤ 100000000000000000000 ∧
      Catalog.standardSpeeds.quantize 1000000 = .ok "v7000" :=
  ⟨by decide +kernel, by decide +kernel,
    ⟨by decide +kernel, by decide +kernel, by decide +kernel⟩, by decide +kernel,
    by decide +kernel, by decide +kernel⟩

/-! ## The first least entry -/

namespace Catalog

variable {c : Catalog} {v : Binary64}

theorem distance_lt_iff (hv : v.isFinite = true) {e f : CatalogEntry} (he : e ∈ c.entries)
    (hf : f ∈ c.entries) :
    e.distance v < f.distance v ↔ roundedGap v e < roundedGap v f := by
  rw [CatalogEntry.distance, CatalogEntry.distance, Binary64.abs_sub (isFinite_level he) hv,
    Binary64.abs_sub (isFinite_level hf) hv, Binary64.ofRatio_lt_iff, roundedGap, roundedGap]

/-- The first entry at the least rounded distance: the entries before it are farther, and none after
it is nearer. -/
def IsFirstLeast (c : Catalog) (v : Binary64) (e : CatalogEntry) : Prop :=
  ∃ front back, c.entries = front ++ e :: back ∧
    (∀ f ∈ front, e.distance v < f.distance v) ∧ ∀ f ∈ back, e.distance v ≤ f.distance v

/-- The entry at the least rounded distance is the first one there. -/
theorem isFirstLeast_of_isLeast (hv : v.isFinite = true) {e : CatalogEntry}
    (h : c.IsLeast (roundedGap v) e) : c.IsFirstLeast v e := by
  obtain ⟨front, back, hsplit⟩ := List.append_of_mem h.mem
  have hfront : ∀ f ∈ front, f ∈ c.entries := fun f hf => hsplit ▸ List.mem_append_left _ hf
  have hback : ∀ f ∈ back, f ∈ c.entries := fun f hf =>
    hsplit ▸ List.mem_append_right _ (List.mem_cons_of_mem _ hf)
  refine ⟨front, back, hsplit, fun f hf => ?_, fun f hf => ?_⟩
  · -- an entry before it is at a lower level, so it cannot be as near
    have hascending := (catalogDefect?_eq_none_iff.mp c.sound).2.2
    rw [hsplit, List.pairwise_append] at hascending
    have hlower := hascending.2.2 f hf e List.mem_cons_self
    rw [distance_lt_iff hv h.mem (hfront f hf)]
    refine Nat.lt_of_le_of_ne (h.least f (hfront f hf)) fun hsame => ?_
    have hle := (level_le_iff h.mem (hfront f hf)).mp (h.lowest f (hfront f hf) hsame.symm)
    omega
  · rw [distance_le_iff hv h.mem (hback f hf)]
    exact h.least f (hback f hf)

/-- A level is at the distance zero from itself, and no other level is. -/
theorem isLeast_level {e : CatalogEntry} (he : e ∈ c.entries) :
    c.IsLeast (roundedGap e.level) e := by
  have hzero : roundedGap e.level e = 0 := by
    rw [roundedGap, roundedUnits_eq_zero_iff, Binary64.gap, Int.sub_self]
    rfl
  refine ⟨he, fun f _ => hzero ▸ Nat.zero_le _, fun f hf hsame => ?_⟩
  rw [hzero, roundedGap, roundedUnits_eq_zero_iff, Binary64.gap] at hsame
  rw [level_le_iff he hf]
  omega

end Catalog

/-- **A value is snapped to the first entry at the least rounded distance**, as a parameter is that
is given as a level; and the level of any entry, the one that was taken among them, is snapped to
that entry. -/
theorem quantize_first_least (c : Catalog) :
    (∀ v, v.isFinite = true → ∃ e, c.IsFirstLeast v e ∧ nearestEntry? c.entries v = some e ∧
      c.quantize v = .ok e.symbol ∧ MotionParameter.resolve c (.level v) = .ok e.symbol) ∧
    ∀ e ∈ c.entries, nearestEntry? c.entries e.level = some e ∧
      c.quantize e.level = .ok e.symbol := by
  constructor
  · intro v hv
    obtain ⟨e, he⟩ := c.exists_isLeast (Catalog.roundedGap v)
    have hpicks := (Catalog.picks_iff_isLeast hv).mpr he
    have hquantize := Catalog.quantize_eq hv hpicks
    exact ⟨e, Catalog.isFirstLeast_of_isLeast hv he, hpicks, hquantize, hquantize⟩
  · intro e he
    have hfinite := Catalog.isFinite_level he
    have hpicks := (Catalog.picks_iff_isLeast hfinite).mpr (Catalog.isLeast_level he)
    exact ⟨hpicks, Catalog.quantize_eq hfinite hpicks⟩

/-- Two levels one unit apart, and two at the other end of the range. -/
def Catalog.farApart : Catalog where
  entries := [⟨0, "zero"⟩, ⟨5e-324, "unit"⟩, ⟨17e307, "high"⟩, ⟨17.5e307, "higher"⟩]
  sound := by decide +kernel

/-- From a value far below all levels the two low ones are equally far after rounding, and the
distances of the two high ones are infinite; each of the two low levels is snapped to itself. -/
theorem quantize_first_least_far_apart :
    (-17e307 : Binary64).isFinite = true ∧
      (CatalogEntry.mk 17e307 "high").distance (-17e307) = .infinite false ∧
      Catalog.farApart.IsFirstLeast (-17e307) ⟨0, "zero"⟩ ∧
      MotionParameter.resolve Catalog.farApart (.level (-17e307)) = .ok "zero" ∧
      Catalog.farApart.quantize 0 = .ok "zero" ∧ Catalog.farApart.quantize 5e-324 = .ok "unit" := by
  obtain ⟨hfirst, hlevels⟩ := quantize_first_least .farApart
  obtain ⟨e, hleast, hpicks, -, hresolve⟩ := hfirst (-17e307) (by decide +kernel)
  have hzero : nearestEntry? Catalog.farApart.entries (-17e307) = some ⟨0, "zero"⟩ := by
    decide +kernel
  obtain rfl := Option.some.inj (hpicks.symm.trans hzero)
  have hlow := hlevels ⟨0, "zero"⟩ (by decide +kernel)
  have hunit := hlevels ⟨5e-324, "unit"⟩ (by decide +kernel)
  exact ⟨by decide +kernel, by decide +kernel, hleast, hresolve, hlow.2, hunit.2⟩

end RobotCell
