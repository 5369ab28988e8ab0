import Mathlib
import StepCatalog.Proofs.Text.Occurrence
import StepCatalog.Session

namespace StepCatalog

open List

/-! ### Counts -/

theorem total_append (ms ns : List Int) : total (ms ++ ns) = total ms + total ns := by
  induction ms
  case nil          => simp [total]
  case cons m ms hi => simp [total, Int.add_assoc] at hi ⊢; exact hi

theorem total_nonneg (h : ∀ n ∈ ns, 0 ≤ n) : 0 ≤ total ns := by
  induction ns
  case nil          => exact Int.le_refl 0
  case cons n ns hi =>
    have ⟨hn, h⟩ := forall_mem_cons.mp h
    exact Int.add_nonneg hn <| hi h

theorem total_le_of_sublist (hs : ms <+ ns) (h : ∀ n ∈ ns, 0 ≤ n) : total ms ≤ total ns := by
  induction hs
  case slnil => exact Int.le_refl _
  case cons ms ns n _ hi =>
    have ⟨hn, h⟩ := forall_mem_cons.mp h
    exact Int.le_trans (hi h) <| Int.le_add_of_nonneg_left hn
  case cons_cons ms ns n _ hi =>
    have ⟨_, h⟩ := forall_mem_cons.mp h
    exact Int.add_le_add_left (hi h) n

-- Rows or not, and even if there are fewer of them than none.
theorem Outline.scenarioCount_pos (o : Outline) : 0 < o.scenarioCount := by
  simp only [scenarioCount]
  split
  case isTrue h  => exact h
  case isFalse _ => exact Int.zero_lt_one

theorem FeatureFile.scenarioCount_nonneg (f : FeatureFile) : 0 ≤ f.scenarioCount := by
  refine Int.add_nonneg (Int.natCast_nonneg _) <| total_nonneg ?_
  intro n hn
  have ⟨o, _, ho⟩ := mem_map.mp hn
  exact ho ▸ Int.le_of_lt o.scenarioCount_pos

namespace Exclusion

variable {fragments fragments' : List String} {files files' : List FeatureFile}

/-! ### The test -/

-- Whichever way their slashes lean, a fragment that is not blank stands in a path.
def Covers (fragment path : String) : Prop :=
  ¬Text.isBlankText fragment ∧ slashed fragment.toList <:+: slashed path.toList

instance : Decidable (Covers fragment path) :=
  inferInstanceAs <| Decidable (¬_ ∧ _ <:+: _)

theorem excludes_iff : excludes fragments path ↔ ∃ f ∈ fragments, Covers f path := by
  simp [excludes, Covers, Text.occursIn_iff]

theorem excludes_mono (h : fragments ⊆ fragments') (he : excludes fragments path) :
    excludes fragments' path := by
  have ⟨f, hf, hc⟩ := excludes_iff.mp he
  exact excludes_iff.mpr ⟨f, h hf, hc⟩

-- Only the fragments that are not blank count, and neither their order nor how often they occur.
theorem excludes_congr (h : ∀ f, ¬Text.isBlankText f → (f ∈ fragments ↔ f ∈ fragments')) :
    excludes fragments = excludes fragments' := by
  funext path
  rw [Bool.eq_iff_iff, excludes_iff, excludes_iff]
  constructor <;> intro ⟨f, hf, hc⟩
  case mp  => exact ⟨f, h f hc.1 |>.mp hf, hc⟩
  case mpr => exact ⟨f, h f hc.1 |>.mpr hf, hc⟩

-- A session leaves the blank fragments out before the test does.
theorem excludes_settings (s : Settings) : excludes s.fragments = excludes s.excludePaths :=
  excludes_congr <| by simp +contextual [Settings.fragments]

/-! ### Slashes -/

-- The same character, or two slashes.
def SameMark (c d : Char) : Prop :=
  c = d ∨ c ∈ ['/', '\\'] ∧ d ∈ ['/', '\\']

-- Two texts that differ in the way some of their slashes lean, and in nothing else.
def Respells (s t : String) : Prop :=
  Forall₂ SameMark s.toList t.toList

theorem SameMark.slashed_eq (h : SameMark c d) :
    (if c = '\\' then '/' else c) = if d = '\\' then '/' else d := by
  simp only [SameMark, mem_cons, not_mem_nil, or_false] at h
  rcases h with rfl | ⟨rfl | rfl, rfl | rfl⟩ <;> rfl

-- No slash is blank, so it makes no difference to blankness how slashes are written.
theorem isBlankText_eq (s : String) : Text.isBlankText s = (slashed s.toList).all Text.isBlank := by
  have hs : Text.isBlank '\\' = Text.isBlank '/' := by decide
  simp only [Text.isBlankText, slashed, all_map]
  congr 1
  funext c
  simp only [Function.comp]
  split
  case isTrue h  => rw [h, hs]
  case isFalse _ => rfl

namespace Respells

theorem slashed_eq (h : Respells s t) : slashed s.toList = slashed t.toList := by
  simp only [slashed, ← forall₂_eq_eq_eq, forall₂_map_left_iff, forall₂_map_right_iff]
  exact h.imp fun _ _ => SameMark.slashed_eq

theorem covers_iff (hf : Respells f f') (hp : Respells p p') : Covers f p ↔ Covers f' p' := by
  simp only [Covers, isBlankText_eq, hf.slashed_eq, hp.slashed_eq]

end Respells

theorem excludes_of_respells (hf : Forall₂ Respells fragments fragments') (hp : Respells p p') :
    excludes fragments p = excludes fragments' p' := by
  induction hf
  case nil => rfl
  case cons f f' _ _ hf _ hi =>
    rw [Bool.eq_iff_iff] at hi ⊢
    simp only [excludes_iff, exists_mem_cons_iff, hf.covers_iff hp] at hi ⊢
    rw [hi]

-- A file whose path is written another way.
def RespellsFile (f g : FeatureFile) : Prop :=
  Respells f.path g.path ∧ g = { f with path := g.path }

/-! ### What is kept -/

theorem keptReferences_references (fragments : List String) (f : FeatureFile) :
    keptReferences fragments f.references =
      if excludes fragments f.path then [] else f.references := by
  simp only [keptReferences, FeatureFile.references, filter_map]
  split
  case isTrue h  => simp [Function.comp_def, h]
  case isFalse h => simp [Function.comp_def, h]

-- The test can be left to the references of the files or be made of the files themselves.
theorem keptReferences_collectReferences (fragments : List String) (files : List FeatureFile) :
    keptReferences fragments (collectReferences files) =
      collectReferences (keptFiles fragments files) := by
  induction files
  case nil => rfl
  case cons f files hi =>
    have hf := keptReferences_references fragments f
    simp only [keptReferences, collectReferences, keptFiles, flatMap_cons, filter_append,
      filter_cons] at hf hi ⊢
    rw [hf, hi]
    cases excludes fragments f.path <;> simp

theorem keptFiles_eq (fragments : List String) (files : List FeatureFile) :
    keptFiles fragments files = files.filter fun f => ∀ x ∈ fragments, ¬Covers x f.path := by
  refine filter_congr ?_
  intro f _
  rw [Bool.eq_iff_iff, decide_eq_true_iff, Bool.not_eq_true', Bool.eq_false_iff]
  simp [excludes_iff]

theorem fileCount_append (files more : List FeatureFile) :
    fileCount fragments (files ++ more) = fileCount fragments files + fileCount fragments more := by
  simp [fileCount, keptFiles]

theorem scenarioCount_append (files more : List FeatureFile) :
    scenarioCount fragments (files ++ more) =
      scenarioCount fragments files + scenarioCount fragments more := by
  simp [scenarioCount, keptFiles, total_append]

theorem keptFiles_sublist (h : fragments ⊆ fragments') (files : List FeatureFile) :
    keptFiles fragments' files <+ keptFiles fragments files := by
  refine monotone_filter_right files ?_
  intro f hf
  simp only [Bool.not_eq_true', Bool.eq_false_iff] at hf ⊢
  exact mt (excludes_mono h) hf

theorem scenarioCount_le (h : fragments ⊆ fragments') (files : List FeatureFile) :
    scenarioCount fragments' files ≤ scenarioCount fragments files := by
  refine total_le_of_sublist (keptFiles_sublist h files |>.map _) ?_
  intro n hn
  have ⟨f, _, hf⟩ := mem_map.mp hn
  exact hf ▸ f.scenarioCount_nonneg

theorem keptFiles_congr (h : excludes fragments = excludes fragments') (files : List FeatureFile) :
    keptFiles fragments files = keptFiles fragments' files := by
  simp only [keptFiles, h]

theorem keptFiles_respells (hx : Forall₂ Respells fragments fragments')
    (hf : Forall₂ RespellsFile files files') :
    Forall₂ RespellsFile (keptFiles fragments files) (keptFiles fragments' files') := by
  induction hf
  case nil => exact .nil
  case cons f g _ _ hfg _ hi =>
    simp only [keptFiles, filter_cons, excludes_of_respells hx hfg.1] at hi ⊢
    split
    case isTrue _  => exact .cons hfg hi
    case isFalse _ => exact hi

theorem RespellsFile.scenarioCount_eq (h : RespellsFile f g) :
    f.scenarioCount = g.scenarioCount := by
  rw [h.2]
  rfl

theorem scenarioCount_of_respells (hx : Forall₂ Respells fragments fragments')
    (hf : Forall₂ RespellsFile files files') :
    scenarioCount fragments files = scenarioCount fragments' files' := by
  refine congrArg total ?_
  simp only [← forall₂_eq_eq_eq, forall₂_map_left_iff, forall₂_map_right_iff]
  exact keptFiles_respells hx hf |>.imp fun _ _ => RespellsFile.scenarioCount_eq

/-! ### Sessions -/

theorem references_of_listed {s : Session} (h : l.features = .ok files) :
    s.references l none = s.references l (some <| collectReferences files) := by
  simp [Session.references, h, Except.map, keptReferences_collectReferences]

theorem findMissing_of_listed [Runtime] {s : Session} (h : l.features = .ok files) :
    s.findMissing l none = s.findMissing l (some <| collectReferences files) := by
  simp only [Session.findMissing, references_of_listed h]

theorem countFiles_of_listed {s : Session} (h : l.features = .ok files) :
    (s.countFiles l).value = fileCount s.settings.excludePaths files := by
  have hk := keptFiles_congr (excludes_settings s.settings) files
  simp [Session.countFiles, Answer.orEmpty, h, Except.map, fileCount, hk]

theorem countScenarios_of_listed {s : Session} (h : l.features = .ok files) :
    (s.countScenarios l).value = scenarioCount s.settings.excludePaths files := by
  have hk := keptFiles_congr (excludes_settings s.settings) files
  simp [Session.countScenarios, Answer.orEmpty, h, Except.map, scenarioCount, hk]

-- One test decides about files, references and counts, whether a session asks for it or not. More
-- fragments exclude more, and neither blank fragments nor the order of the others matter, nor how
-- slashes are written.
theorem exclusion_uniform [Runtime] (fragments : List String) (files : List FeatureFile) :
    (keptReferences fragments (collectReferences files) =
        collectReferences (keptFiles fragments files) ∧
      ∀ (s : Session) (l : Listings), l.features = .ok files →
        s.findMissing l none = s.findMissing l (some <| collectReferences files) ∧
        (s.countFiles l).value = fileCount s.settings.excludePaths files ∧
        (s.countScenarios l).value = scenarioCount s.settings.excludePaths files) ∧
    (keptFiles fragments files = (files.filter fun f => ∀ x ∈ fragments, ¬Covers x f.path) ∧
      fileCount fragments files = (keptFiles fragments files).length ∧
      scenarioCount fragments files =
        total ((keptFiles fragments files).map FeatureFile.scenarioCount)) ∧
    (∀ more,
      fileCount fragments (files ++ more) = fileCount fragments files + fileCount fragments more ∧
      scenarioCount fragments (files ++ more) =
        scenarioCount fragments files + scenarioCount fragments more) ∧
    (∀ fragments', fragments ⊆ fragments' →
      keptFiles fragments' files <+ keptFiles fragments files ∧
      fileCount fragments' files ≤ fileCount fragments files ∧
      scenarioCount fragments' files ≤ scenarioCount fragments files) ∧
    (∀ fragments', (∀ f, ¬Text.isBlankText f → (f ∈ fragments ↔ f ∈ fragments')) →
      excludes fragments = excludes fragments') ∧
    ∀ fragments' files', Forall₂ Respells fragments fragments' → Forall₂ RespellsFile files files' →
      (∀ p p', Respells p p' → excludes fragments p = excludes fragments' p') ∧
      fileCount fragments files = fileCount fragments' files' ∧
      scenarioCount fragments files = scenarioCount fragments' files' := by
  refine ⟨⟨keptReferences_collectReferences .., ?_⟩, ?_, ?_, ?_, fun _ => excludes_congr, ?_⟩
  case refine_1 =>
    intro s l h
    exact ⟨findMissing_of_listed h, countFiles_of_listed h, countScenarios_of_listed h⟩
  case refine_2 => exact ⟨keptFiles_eq .., rfl, rfl⟩
  case refine_3 =>
    intro more
    exact ⟨fileCount_append .., scenarioCount_append ..⟩
  case refine_4 =>
    intro _ h
    exact ⟨keptFiles_sublist h files, keptFiles_sublist h files |>.length_le,
      scenarioCount_le h files⟩
  case refine_5 =>
    intro _ _ hx hf
    refine ⟨fun _ _ => excludes_of_respells hx, ?_, scenarioCount_of_respells hx hf⟩
    exact keptFiles_respells hx hf |>.length_eq

theorem exclusion_uniform_build :
    let file (path : String) : FeatureFile := ⟨path, [⟨"s", 1⟩], [⟨"o", 2, [3, -4]⟩], [⟨"x", 5⟩]⟩
    let files := [file "p/build/a", file "p\\b"]
    let files' := [file "p\\build/a", file "p/b"]
    Forall₂ Respells ["build/"] ["build\\"] ∧ Forall₂ RespellsFile files files' ∧
      scenarioCount ["build\\"] files' = 2 ∧
      scenarioCount ["build/"] files = scenarioCount ["build\\"] files' := by
  intro file files files'
  have hx : Forall₂ Respells ["build/"] ["build\\"] := by simp [Respells, SameMark]
  have hf : Forall₂ RespellsFile files files' := by
    simp [files, files', file, RespellsFile, Respells, SameMark]
  have hu := (exclusion_uniform ["build/"] files).2.2.2.2.2 _ _ hx hf
  exact ⟨hx, hf, by decide +kernel, hu.2.2⟩

end Exclusion

end StepCatalog
