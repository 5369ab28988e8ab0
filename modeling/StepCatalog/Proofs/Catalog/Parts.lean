import Mathlib
import StepCatalog.Proofs.Catalog.Build

namespace StepCatalog

open DefinitionSite List

theorem forall₂_filter_filterMap {p : α → Bool} {g : β → Option γ} {R : α → γ → Prop}
    (h : Forall₂ (fun a b => p a = (g b).isSome ∧ ∀ c ∈ g b, R a c) l bs) :
    Forall₂ R (l.filter p) (bs.filterMap g) := by
  induction h
  case nil => exact .nil
  case cons a b l bs hab _ hi =>
    have ⟨hp, hr⟩ := hab
    cases hg : g b
    case none => simpa [hp, hg] using hi
    case some c => simpa [hp, hg] using ⟨hr c hg, hi⟩

section

variable [Runtime]

namespace DefinitionSite

def compiles (s : DefinitionSite) : Bool := (StepPattern.compile s.text).isOk

-- A definition has the pattern and the screen of a site's text, and stands where the site does.
structure Defines (s : DefinitionSite) (d : StepDefinition) : Prop where
  pattern : StepPattern.compile s.text = .ok d.pattern
  path : d.path = s.path
  line : d.line = s.line
  group : d.group = s.group
  screen : d.screen = String.ofList (StepText.screenTag s.text.toList)

-- A failure has a site's text, and the error that comes of compiling it.
structure Fails (s : DefinitionSite) (f : Failure) : Prop where
  raw : f.raw = s.text
  error : StepPattern.compile s.text = .error f.error

variable {s : DefinitionSite}

theorem definition?_isSome (s : DefinitionSite) : s.definition?.isSome = s.compiles := by
  rw [definition?, StepDefinition.ofSite, compiles]
  cases StepPattern.compile s.text <;> rfl

theorem defines_of_definition? (h : s.definition? = some d) : s.Defines d := by
  rw [definition?, StepDefinition.ofSite] at h
  cases hc : StepPattern.compile s.text <;> rw [hc] at h <;> cases h
  exact ⟨hc, rfl, rfl, rfl, rfl⟩

theorem fails_of_failure? (h : s.failure? = some f) : s.Fails f := by
  cases hc : StepPattern.compile s.text
  case ok p =>
    obtain ⟨d, ho, _⟩ := ofSite_of_ok hc
    rw [failure?, ho] at h
    contradiction
  case error e =>
    rw [failure?, ofSite_of_error hc] at h
    cases e <;> cases h
    exact ⟨StepPattern.compile_malformed hc, StepPattern.compile_malformed hc ▸ hc⟩

-- A site that a build can recover from is noted just if it does not compile.
theorem Settles.failure?_isSome (h : s.Settles) : s.failure?.isSome = !s.compiles := by
  rw [compiles]
  cases hc : StepPattern.compile s.text
  case ok p =>
    obtain ⟨d, ho, _⟩ := ofSite_of_ok hc
    rw [failure?, ho]
    rfl
  case error e =>
    rw [failure?, ofSite_of_error hc]
    cases e
    case malformed => rfl
    all_goals exact (h _ hc).elim

end DefinitionSite

namespace Catalog

variable {sites : List DefinitionSite} {c : Catalog}

theorem definitions_of_build (h : build sites = .ok c) :
    Forall₂ Defines (sites.filter compiles) c.definitions := by
  obtain ⟨_, rfl⟩ := build_eq_ok_iff.mp h
  refine forall₂_filter_filterMap <| forall₂_same.mpr ?_
  exact fun s _ => ⟨s.definition?_isSome.symm, fun _ => defines_of_definition?⟩

theorem failures_of_build (h : build sites = .ok c) :
    Forall₂ Fails (sites.filter (!·.compiles)) c.failures := by
  obtain ⟨hs, rfl⟩ := build_eq_ok_iff.mp h
  refine forall₂_filter_filterMap <| forall₂_same.mpr ?_
  exact fun s hm => ⟨(hs s hm).failure?_isSome.symm, fun _ => fails_of_failure?⟩

-- Nothing of the corpus is lost and nothing is there twice.
theorem length_of_build (h : build sites = .ok c) :
    c.definitions.length + c.failures.length = sites.length := by
  rw [← (definitions_of_build h).length_eq, ← (failures_of_build h).length_eq]
  exact (length_eq_length_filter_add compiles).symm

theorem exists_defines_of_build (h : build sites = .ok c) (hd : d ∈ c.definitions) :
    ∃ s ∈ sites, s.Defines d := by
  obtain ⟨_, rfl⟩ := build_eq_ok_iff.mp h
  have ⟨s, hs, hd⟩ := mem_filterMap.mp hd
  exact ⟨s, hs, defines_of_definition? hd⟩

theorem ofSites_append (a b : List DefinitionSite) : ofSites (a ++ b) =
    ⟨(ofSites a).definitions ++ (ofSites b).definitions,
      (ofSites a).failures ++ (ofSites b).failures⟩ := by
  simp only [ofSites, filterMap_append]

theorem build_append_eq_ok_iff : build (a ++ b) = .ok c ↔
    ∃ c₁ c₂, build a = .ok c₁ ∧ build b = .ok c₂ ∧
      c = ⟨c₁.definitions ++ c₂.definitions, c₁.failures ++ c₂.failures⟩ := by
  simp only [build_eq_ok_iff, forall_mem_append, ofSites_append]
  constructor
  case mp =>
    rintro ⟨⟨ha, hb⟩, rfl⟩
    exact ⟨_, _, ⟨ha, rfl⟩, ⟨hb, rfl⟩, rfl⟩
  case mpr =>
    rintro ⟨_, _, ⟨ha, rfl⟩, ⟨hb, rfl⟩, rfl⟩
    exact ⟨⟨ha, hb⟩, rfl⟩

-- A corpus is built if no text of it ends the build. The build parts it in two, each part in the
-- order of the corpus: the sites whose text has a pattern become definitions and all others failures.
-- Parts of a corpus can be built on their own.
theorem build_parts :
    (∀ sites, (∃ c, build sites = .ok c) ↔ ∀ s ∈ sites, s.Settles) ∧
    (∀ sites c, build sites = .ok c →
      Forall₂ Defines (sites.filter compiles) c.definitions ∧
      Forall₂ Fails (sites.filter (!·.compiles)) c.failures ∧
      c.definitions.length + c.failures.length = sites.length) ∧
    ∀ a b c, build (a ++ b) = .ok c ↔ ∃ c₁ c₂, build a = .ok c₁ ∧ build b = .ok c₂ ∧
      c = ⟨c₁.definitions ++ c₂.definitions, c₁.failures ++ c₂.failures⟩ := by
  refine ⟨fun sites => by simp [build_eq_ok_iff], ?_, fun _ _ _ => build_append_eq_ok_iff⟩
  exact fun _ _ h => ⟨definitions_of_build h, failures_of_build h, length_of_build h⟩

end Catalog

end

namespace Catalog

-- A text that stands there twice, with another one between that is malformed.
theorem build_parts_login :
    let login : DefinitionSite := ⟨"Login: I log in", "a", 3, "g"⟩
    let unclosed : DefinitionSite := ⟨"^(", "b", 5, ""⟩
    ∃ c, build [login, unclosed, login] = .ok c ∧
      Forall₂ Defines [login, login] c.definitions ∧ Forall₂ Fails [unclosed] c.failures ∧
      c.definitions.length + c.failures.length = 3 := by
  intro login unclosed
  have hs : ∀ s ∈ [login, unclosed, login], s.Settles := by decide +kernel
  obtain ⟨c, hb⟩ := (build_parts.left _).mpr hs
  have hc : [login, unclosed, login].filter compiles = [login, login] := by decide +kernel
  have hn : [login, unclosed, login].filter (!·.compiles) = [unclosed] := by decide +kernel
  have hp := build_parts.right.left _ _ hb
  rw [hc, hn] at hp
  exact ⟨_, hb, hp⟩

end Catalog

end StepCatalog
