import RobotCell.Proofs.Controller.Value
import RobotCell.Proofs.Motion.Grammar
import RobotCell.Proofs.Motion.Nearest
import RobotCell.Proofs.Streaming.Ideal
import RobotCell.Settings.Basic

/-!
# RobotCell.Proofs.Settings.Validation

What it takes for settings to be accepted, and what they are then good for.

`Settings.Sound` says of every setting by itself what is asked of it, and `defect?_eq_none_iff` that
the first fault is found just when one of them fails.  Sound settings set up a compiler and a
window: their levels are catalogs, each with a name of its own for every level, since the text of a
number shows all of it but the sign of a zero (`toUnits_eq_of_numberText`).
-/

namespace RobotCell

/-! ## Names of levels -/

/-- The sign of a zero is no distance from it. -/
theorem Binary64.toUnits_dropZeroSign (x : Binary64) : x.dropZeroSign.toUnits = x.toUnits := by
  unfold dropZeroSign
  split
  · rename_i hzero
    cases x with
    | finite negative units hlt hgrid =>
        obtain rfl : units = 0 := by simpa [isZero] using hzero
        cases negative <;> rfl
    | infinite | nan => cases hzero
  · rfl

/-- Numbers with the same text are the same up to the sign of a zero. -/
theorem toUnits_eq_of_numberText {x y : Binary64} (h : numberText x = numberText y) :
    x.toUnits = y.toUnits := by
  have hparse := parse_numberText x
  rw [h, parse_numberText y] at hparse
  have hsame : y.dropZeroSign = x.dropZeroSign := by simpa using hparse
  rw [← Binary64.toUnits_dropZeroSign x, ← hsame, Binary64.toUnits_dropZeroSign]

/-! ## Levels -/

/-- Levels that make up a catalog: at least one, all finite, and each below all that follow. -/
structure AscendingLevels (levels : List Binary64) : Prop where
  nonempty : levels ≠ []
  finite : ∀ x ∈ levels, x.isFinite = true
  ascending : levels.Pairwise (· < ·)

instance (levels : List Binary64) : Decidable (AscendingLevels levels) :=
  decidable_of_iff (levels ≠ [] ∧ (∀ x ∈ levels, x.isFinite = true) ∧ levels.Pairwise (· < ·))
    ⟨fun ⟨h₁, h₂, h₃⟩ => ⟨h₁, h₂, h₃⟩, fun ⟨h₁, h₂, h₃⟩ => ⟨h₁, h₂, h₃⟩⟩

/-- Named levels make a catalog just when they ascend. -/
theorem catalogDefect?_named_eq_none_iff {letter : String} {levels : List Binary64} :
    catalogDefect? (levels.map (CatalogEntry.named letter)) = none ↔ AscendingLevels levels := by
  rw [catalogDefect?_eq_none_iff, List.pairwise_map, List.forall_mem_map, ne_eq, List.map_eq_nil_iff]
  constructor
  · rintro ⟨hne, hfinite, hascending⟩
    refine ⟨hne, hfinite, hascending.imp_of_mem fun hx hy hlt => ?_⟩
    exact (Binary64.lt_iff_toUnits (hfinite _ hx) (hfinite _ hy)).mpr hlt
  · rintro ⟨hne, hfinite, hascending⟩
    refine ⟨hne, hfinite, hascending.imp_of_mem fun hx hy hlt => ?_⟩
    exact (Binary64.lt_iff_toUnits (hfinite _ hx) (hfinite _ hy)).mp hlt

/-- What a catalog of levels that are named by a letter is good for: every finite value is snapped
to one of its levels, and no two levels have the same name. -/
structure Catalog.Serves (c : Catalog) (letter : String) (levels : List Binary64) : Prop where
  entries_eq : c.entries = levels.map (CatalogEntry.named letter)
  quantize_ok : ∀ v, v.isFinite = true → ∃ x ∈ levels, c.quantize v = .ok (letter ++ numberText x)
  symbols_nodup : (c.entries.map (·.symbol)).Nodup

/-- A catalog of named levels serves each of them. -/
theorem Catalog.serves {c : Catalog} {letter : String} {levels : List Binary64}
    (h : c.entries = levels.map (CatalogEntry.named letter)) : c.Serves letter levels := by
  refine ⟨h, fun v hv => ?_, ?_⟩
  · obtain ⟨e, he⟩ := c.exists_isLeast (roundedGap v)
    have hmem := he.mem
    rw [h, List.mem_map] at hmem
    obtain ⟨x, hx, rfl⟩ := hmem
    exact ⟨x, hx, quantize_eq hv ((picks_iff_isLeast hv).mpr he)⟩
  · have hascending := (catalogDefect?_eq_none_iff.mp c.sound).2.2
    rw [h, List.pairwise_map] at hascending
    rw [h, List.map_map, List.Nodup, List.pairwise_map]
    refine hascending.imp fun {x y} hlt hsame => ?_
    have hunits := toUnits_eq_of_numberText ((String.append_right_inj letter).mp hsame)
    exact absurd hlt (hunits ▸ Int.lt_irrefl _)

/-! ## Settings -/

/-- A text is blank when all of its characters are. -/
theorem isBlankText_eq_true_iff {s : String} :
    Settings.isBlankText s = true ↔ ∀ c ∈ s.toList, isBlank c = true := by
  rw [Settings.isBlankText, List.isEmpty_iff, trim_eq_iff]
  constructor
  · rintro ⟨before, after, hs, hblank, -, -⟩
    rw [hs]
    exact hblank
  · intro hblank
    exact ⟨s.toList, [], by simp, by simpa using hblank, by simp, by simp⟩

/-- The names of log levels are these five. -/
theorem isName_iff {s : String} :
    LogLevel.isName s = true ↔ s ∈ ["trace", "debug", "info", "warn", "error"] := by
  simp only [LogLevel.isName, LogLevel.all, List.any_cons, List.any_nil, LogLevel.name,
    Bool.or_eq_true, beq_iff_eq, List.mem_cons]
  grind

namespace Settings

variable {s : Settings}

/-- What is asked of settings. -/
structure Sound (s : Settings) : Prop where
  logLevel : s.application.logLevel ∈ ["trace", "debug", "info", "warn", "error"]
  task : ∃ c ∈ s.controller.task.toList, isBlank c = false
  module : ∃ c ∈ s.controller.module.toList, isBlank c = false
  speeds : AscendingLevels s.catalog.speeds
  zones : AscendingLevels s.catalog.zones
  window_pos : 0 < s.streaming.window
  feedMargin_lt : s.streaming.feedMargin < s.streaming.window
  retireMargin_le : s.streaming.retireMargin ≤ s.streaming.feedMargin

/-- A text is not blank just when a character of it is not. -/
theorem isBlankText_eq_false_iff {text : String} :
    isBlankText text = false ↔ ∃ c ∈ text.toList, isBlank c = false := by
  rw [← Bool.not_eq_true, isBlankText_eq_true_iff]
  simp

/-- No fault is found just when there is none. -/
theorem defect?_eq_none_iff : s.defect? = none ↔ s.Sound := by
  have hspeeds : catalogDefect? s.speedEntries = none ↔ AscendingLevels s.catalog.speeds :=
    catalogDefect?_named_eq_none_iff
  have hzones : catalogDefect? s.zoneEntries = none ↔ AscendingLevels s.catalog.zones :=
    catalogDefect?_named_eq_none_iff
  constructor
  · intro h
    unfold defect? at h
    split at h
    · cases h
    rename_i hlevel
    split at h
    · cases h
    rename_i htask
    split at h
    · cases h
    rename_i hmodule
    split at h
    · cases h
    · cases h
    rename_i hspeedEntries hzoneEntries
    obtain ⟨hpos, hfeed, hretire⟩ :=
      WindowConfig.defect?_eq_none_iff.mp (Option.map_eq_none_iff.mp h)
    exact ⟨isName_iff.mp (eq_true_of_ne_false hlevel),
      isBlankText_eq_false_iff.mp (eq_false_of_ne_true htask),
      isBlankText_eq_false_iff.mp (eq_false_of_ne_true hmodule),
      hspeeds.mp hspeedEntries, hzones.mp hzoneEntries, hpos, hfeed, hretire⟩
  · intro h
    unfold defect?
    rw [isName_iff.mpr h.logLevel, isBlankText_eq_false_iff.mpr h.task,
      isBlankText_eq_false_iff.mpr h.module, hspeeds.mpr h.speeds, hzones.mpr h.zones]
    simpa using WindowConfig.defect?_eq_none_iff.mpr
      ⟨h.window_pos, h.feedMargin_lt, h.retireMargin_le⟩

/-- Settings pass their check just when they have no defect. -/
theorem validate_eq_ok_iff : s.validate = .ok () ↔ s.defect? = none := by
  unfold validate
  split <;> simp_all

/-! ## What sound settings set up -/

theorem speedCatalog_eq_ok (h : catalogDefect? s.speedEntries = none) :
    s.speedCatalog = .ok ⟨s.speedEntries, h⟩ := by
  unfold speedCatalog
  split
  · simp_all
  · rfl

theorem zoneCatalog_eq_ok (h : catalogDefect? s.zoneEntries = none) :
    s.zoneCatalog = .ok ⟨s.zoneEntries, h⟩ := by
  unfold zoneCatalog
  split
  · simp_all
  · rfl

/-- The compiler of sound settings snaps to both of their lists of levels. -/
theorem Sound.compiler (h : s.Sound) :
    ∃ c : Compiler, s.compiler = .ok c ∧ s.speedCatalog = .ok c.speeds ∧
      s.zoneCatalog = .ok c.zones ∧ c.speeds.Serves "v" s.catalog.speeds ∧
      c.zones.Serves "z" s.catalog.zones := by
  have hspeeds := speedCatalog_eq_ok (catalogDefect?_named_eq_none_iff.mpr h.speeds)
  have hzones := zoneCatalog_eq_ok (catalogDefect?_named_eq_none_iff.mpr h.zones)
  refine ⟨⟨_, _⟩, ?_, hspeeds, hzones, Catalog.serves rfl, Catalog.serves rfl⟩
  rw [Settings.compiler, hspeeds, hzones]

/-- The window of sound settings can be set up for every list of targets and every base row. -/
theorem Sound.window (h : s.Sound) (baseRow total : Nat) :
    StreamingWindow.ofConfig s.streaming baseRow total =
      .ok { config := s.streaming, baseRow, total } := by
  have hdefect : s.streaming.defect? = none :=
    WindowConfig.defect?_eq_none_iff.mpr ⟨h.window_pos, h.feedMargin_lt, h.retireMargin_le⟩
  simp [StreamingWindow.ofConfig, WindowConfig.validate, hdefect]

/-- **Settings are accepted just when they are sound**, and all that is set up from accepted
settings can be: a compiler whose catalogs snap every finite value to one of their levels, each
level with a name of its own, and a window for every list of targets and every base row. -/
theorem validate_iff_sound_and_usable (s : Settings) :
    (s.validate = .ok () ↔ s.Sound) ∧
    (s.validate = .ok () →
      (∃ c : Compiler, s.compiler = .ok c ∧ s.speedCatalog = .ok c.speeds ∧
        s.zoneCatalog = .ok c.zones ∧ c.speeds.Serves "v" s.catalog.speeds ∧
        c.zones.Serves "z" s.catalog.zones) ∧
      ∀ baseRow total, StreamingWindow.ofConfig s.streaming baseRow total =
        .ok { config := s.streaming, baseRow, total }) := by
  have hiff : s.validate = .ok () ↔ s.Sound := validate_eq_ok_iff.trans defect?_eq_none_iff
  exact ⟨hiff, fun hvalid => ⟨(hiff.mp hvalid).compiler, (hiff.mp hvalid).window⟩⟩

/-- Settings at the edge of what is accepted: levels from a negative zero to almost the largest
number there is, a zone that is negative, a task with blanks around its one letter, and a window
with the widest margins. -/
def extreme : Settings :=
  { application := { logLevel := "trace" }
    controller := { task := " T\n", module := "m" }
    catalog := { speeds := [-0, 5e-324, 17e307], zones := [-0.3, 0] }
    streaming := ⟨4, 3, 3⟩ }

theorem extreme_validate :
    extreme.Sound ∧
      (∃ c : Compiler, extreme.compiler = .ok c ∧
        c.zones.entries.map (·.symbol) = ["z-0.3", "z0"] ∧
        (c.speeds.entries.map (·.symbol)).Nodup ∧
        ∃ x ∈ [-0, 5e-324, 17e307], c.speeds.quantize (-17e307) = .ok ("v" ++ numberText x)) ∧
      StreamingWindow.ofConfig ⟨4, 3, 3⟩ (wordLimit - 1) (wordLimit - 1) =
        .ok { config := ⟨4, 3, 3⟩, baseRow := wordLimit - 1, total := wordLimit - 1 } := by
  obtain ⟨hiff, husable⟩ := validate_iff_sound_and_usable extreme
  have hsound : extreme.Sound :=
    ⟨by decide, ⟨'T', by decide, rfl⟩, ⟨'m', by decide, rfl⟩, by decide +kernel, by decide +kernel,
      by decide, by decide, by decide⟩
  obtain ⟨⟨c, hcompiler, -, -, hspeeds, hzones⟩, hwindow⟩ := husable (hiff.mpr hsound)
  refine ⟨hsound, ⟨c, hcompiler, ?_, hspeeds.symbols_nodup, hspeeds.quantize_ok _ (by decide +kernel)⟩,
    hwindow _ _⟩
  rw [hzones.entries_eq]
  decide +kernel

end Settings

end RobotCell
