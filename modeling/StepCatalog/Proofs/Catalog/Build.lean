import Mathlib
import StepCatalog.Catalog
import StepCatalog.Proofs.Outcome

namespace StepCatalog

-- The one kind of error that a build recovers from.
def PatternError.IsMalformed : PatternError → Prop
  | malformed .. => True
  | _ => False

instance : DecidablePred PatternError.IsMalformed
  | .malformed .. => isTrue trivial
  | .countTooLarge | .countTooLong _ | .nestedTooDeep | .reachesTooFar => isFalse id

-- What is noted if a text has no pattern, but a build recovers from that.
def Failure.of? : Except PatternError α → Option Failure
  | .error (.malformed raw detail) => some ⟨raw, detail⟩
  | _ => none

section

variable [Runtime]

theorem StepPattern.compile_malformed {text : String}
    (h : compile text = .error (.malformed raw' detail)) : raw' = text := by
  simp only [compile] at h
  split at h
  case isTrue => cases h
  case isFalse =>
    split at h
    case h_1 e _ => cases e <;> simp_all [PatternError.ofRefusal]
    case h_2 => contradiction

namespace DefinitionSite

-- The text compiles or is malformed.
def Settles (s : DefinitionSite) : Prop :=
  ∀ e, StepPattern.compile s.text = .error e → e.IsMalformed

instance (s : DefinitionSite) : Decidable s.Settles :=
  match hc : StepPattern.compile s.text with
  | .ok _ => isTrue fun _ h => nomatch hc.symm.trans h
  | .error e => decidable_of_iff e.IsMalformed
    ⟨fun he _ h => Except.error.inj (hc.symm.trans h) ▸ he, fun h => h e hc⟩

def definition? (s : DefinitionSite) : Option StepDefinition :=
  (StepDefinition.ofSite s).toOption

def failure? (s : DefinitionSite) : Option Failure :=
  Failure.of? (StepDefinition.ofSite s)

theorem ofSite_of_ok {s : DefinitionSite} (h : StepPattern.compile s.text = .ok p) :
    ∃ d, StepDefinition.ofSite s = .ok d ∧ d.pattern = p := by
  rw [StepDefinition.ofSite, h]
  exact ⟨_, rfl, rfl⟩

theorem ofSite_of_error {s : DefinitionSite} (h : StepPattern.compile s.text = .error e) :
    StepDefinition.ofSite s = .error e := by
  rw [StepDefinition.ofSite, h]
  rfl

end DefinitionSite

open DefinitionSite

namespace Catalog

def ofSites (sites : List DefinitionSite) : Catalog :=
  ⟨sites.filterMap definition?, sites.filterMap failure?⟩

-- Both equations hold by computation, while those that Lean would derive take it long to find.
theorem build_nil : build [] = .ok empty := (rfl)

theorem build_cons : build (site :: sites) =
    match StepDefinition.ofSite site with
    | .error (.malformed raw detail) =>
      (build sites).map fun c => { c with failures := ⟨raw, detail⟩ :: c.failures }
    | .error e => .error e
    | .ok d => (build sites).map fun c => { c with definitions := d :: c.definitions } := (rfl)

theorem build_cons_of_settles (h : site.Settles) :
    build (site :: sites) = (build sites).map fun c =>
      ⟨site.definition?.toList ++ c.definitions, site.failure?.toList ++ c.failures⟩ := by
  simp only [definition?, failure?]
  cases hc : StepPattern.compile site.text
  case ok p =>
    have ⟨d, ho, _⟩ := ofSite_of_ok hc
    rw [build_cons, ho]
    rfl
  case error e =>
    have ho := ofSite_of_error hc
    cases e
    case malformed raw detail =>
      rw [build_cons, ho]
      rfl
    all_goals exact (h _ hc).elim

theorem build_cons_of_not_settles (h : ¬site.Settles) (sites : List DefinitionSite) :
    ∃ e, build (site :: sites) = .error e := by
  simp only [Settles, not_forall] at h
  have ⟨e, hc, he⟩ := h
  refine ⟨e, ?_⟩
  cases e
  case malformed => exact absurd trivial he
  all_goals rw [build_cons, ofSite_of_error hc]

theorem ofSites_cons : ofSites (site :: sites) =
    ⟨site.definition?.toList ++ (ofSites sites).definitions,
      site.failure?.toList ++ (ofSites sites).failures⟩ := by
  cases hd : site.definition? <;> cases hf : site.failure? <;> simp [ofSites, hd, hf]

-- A build goes through if it can recover from every error in the corpus, and then the corpus is
-- parted into definitions and failures.
theorem build_eq_ok_iff : build sites = .ok c ↔ (∀ s ∈ sites, s.Settles) ∧ c = ofSites sites := by
  induction sites generalizing c
  case nil => simp [build_nil, ofSites, empty, eq_comm]
  case cons site sites hi =>
    by_cases hs : site.Settles
    case pos =>
      simp only [build_cons_of_settles hs, map_eq_ok_iff, hi, List.forall_mem_cons, hs, true_and,
        ofSites_cons]
      constructor
      case mp =>
        rintro ⟨c, ⟨h, rfl⟩, rfl⟩
        exact ⟨h, rfl⟩
      case mpr =>
        rintro ⟨h, rfl⟩
        exact ⟨_, ⟨h, rfl⟩, rfl⟩
    case neg =>
      have ⟨e, he⟩ := build_cons_of_not_settles hs sites
      simp [he, hs]

-- A text with no pattern leaves a build alone, but for the failure that is noted in its place, just
-- if neither its own error nor that of any other text ends the build.
theorem build_insert_iff (h : StepPattern.compile r.text = .error e) :
    (∃ c c', build (a ++ r :: b) = .ok c ∧ build (a ++ b) = .ok c' ∧
      c.definitions = c'.definitions ∧
      ∃ f fs gs, c'.failures = fs ++ gs ∧ c.failures = fs ++ f :: gs ∧
        f.raw = r.text ∧ f.error = e) ↔
    e.IsMalformed ∧ ∀ s ∈ a ++ b, s.Settles := by
  have hr : r.Settles ↔ e.IsMalformed := by simp [Settles, h]
  have hs : (∀ s ∈ a ++ r :: b, s.Settles) ↔ e.IsMalformed ∧ ∀ s ∈ a ++ b, s.Settles := by
    simp only [List.forall_mem_append, List.forall_mem_cons, hr, and_left_comm]
  rw [← hs]
  constructor
  case mp =>
    intro ⟨c, _, hc, _⟩
    exact (build_eq_ok_iff.mp hc).left
  case mpr =>
    intro ha
    have ⟨he, hb⟩ := hs.mp ha
    cases e
    case malformed raw detail =>
      cases StepPattern.compile_malformed h
      have ho := ofSite_of_error h
      have hd : r.definition? = none := by rw [definition?, ho]; rfl
      have hf : r.failure? = some ⟨r.text, detail⟩ := by rw [failure?, ho]; rfl
      refine ⟨_, _, build_eq_ok_iff.mpr ⟨ha, rfl⟩, build_eq_ok_iff.mpr ⟨hb, rfl⟩, ?_,
        ⟨r.text, detail⟩, (ofSites a).failures, (ofSites b).failures, ?_, ?_, rfl, rfl⟩
      all_goals simp [ofSites, hd, hf]
    all_goals exact he.elim

end Catalog

end

namespace Catalog

theorem build_insert_unclosed :
    StepPattern.compile "^(" =
        .error (.malformed "^(" "missing ), unterminated subpattern at position 1") ∧
      ∃ c c', build [⟨"ok", "", 1, ""⟩, ⟨"^(", "", 2, ""⟩, ⟨"fine", "", 3, ""⟩] = .ok c ∧
        build [⟨"ok", "", 1, ""⟩, ⟨"fine", "", 3, ""⟩] = .ok c' ∧ c.definitions = c'.definitions ∧
        ∃ f fs gs, c'.failures = fs ++ gs ∧ c.failures = fs ++ f :: gs ∧ f.raw = "^(" ∧
          f.error = .malformed "^(" "missing ), unterminated subpattern at position 1" :=
  ⟨by decide +kernel,
    (build_insert_iff (a := [⟨"ok", "", 1, ""⟩]) (r := ⟨"^(", "", 2, ""⟩)
      (b := [⟨"fine", "", 3, ""⟩]) (by decide +kernel)).mpr (by decide +kernel)⟩

-- A repetition number that is too large is no malformed expression, and ends the build.
theorem not_build_insert :
    ¬∀ (a b : List DefinitionSite) (r : DefinitionSite) (e : PatternError),
      StepPattern.compile r.text = .error e → ∃ c, build (a ++ r :: b) = .ok c := by
  intro h
  let r : DefinitionSite := ⟨"a{4294967295}(b)", "", 2, ""⟩
  have hr : StepPattern.compile r.text = .error .countTooLarge := by decide +kernel
  have ⟨c, hc⟩ := h [⟨"ok", "", 1, ""⟩] [⟨"fine", "", 3, ""⟩] r _ hr
  have hs := (build_eq_ok_iff.mp hc).left r (by simp)
  exact hs _ hr

end Catalog

end StepCatalog
