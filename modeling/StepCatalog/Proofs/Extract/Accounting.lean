import Mathlib
import StepCatalog.Proofs.Catalog.Parts
import StepCatalog.Proofs.Extract.Records
import StepCatalog.Proofs.Session.Machine

namespace StepCatalog.Extract

open Json List

/-! ### What a record says -/

-- The text of a value that stands for something, unless that text is blank.
def spoken? (v : Option Json) : Option String :=
  ((v.filter (!·.isVoid)).map asText).filter (!Text.isBlankText ·)

def stepText? (members : Members) : Option String :=
  spoken? (members.lookup "text") <|> spoken? (members.lookup "method_name")

section

variable [Runtime]

-- A site has the step text of a record as it stands there, and what else the record says of it.
structure Describes (members : Members) (s : DefinitionSite) : Prop where
  text : stepText? members = some s.text
  path : textOf (members.lookup "source_path") = .ok s.path
  group : groupOf members s.path = .ok s.group
  line : 1 ≤ s.line

theorem spoken?_of_textOf (h : textOf v = .ok s) :
    spoken? v = if Text.isBlankText s then none else some s := by
  cases v
  case none =>
    cases h
    rfl
  case some v =>
    simp only [textOf] at h
    split at h
    case isTrue hv =>
      cases h
      simp [spoken?, hv, Text.isBlankText]
    case isFalse hv =>
      unfold describedText at h
      split at h <;> cases h
      cases hb : Text.isBlankText v.asText <;> simp [spoken?, hv, hb]

theorem stepText?_of_stepTextOf (h : stepTextOf members = .ok s) :
    stepText? members = if Text.isBlankText s then none else some s := by
  obtain ⟨text, ht, h⟩ := bind_eq_ok_iff.mp h
  rw [stepText?, spoken?_of_textOf ht]
  split at h
  case isTrue hb => simp [hb, spoken?_of_textOf h]
  case isFalse hb =>
    cases h
    simp [hb]

-- A record describes a site just if it has a step text.
theorem describes_of_site? (h : site? members = .ok o) :
    (stepText? members).isSome = o.isSome ∧ ∀ s ∈ o, Describes members s := by
  cases o
  case none =>
    obtain ⟨text, ht, hb⟩ := of_site?_eq_none h
    simp [stepText?_of_stepTextOf ht, hb]
  case some s =>
    obtain ⟨ht, hb, hp, hg, hl⟩ := of_site?_eq_some h
    have hs := stepText?_of_stepTextOf ht
    rw [hb] at hs
    refine ⟨by simp [hs], ?_⟩
    rintro _ ⟨⟩
    exact ⟨hs, hp, hg, one_le_of_lineOf hl⟩

theorem describes_of_definitions (h : definitions d t p = .ok sites) :
    ∃ records, loadLines d t p = .ok records ∧
      Forall₂ Describes (records.filter fun r => (stepText? r).isSome) sites := by
  obtain ⟨records, found, hr, hf, rfl⟩ := definitions_eq_ok_iff.mp h
  refine ⟨records, hr, forall₂_filter_filterMap ?_⟩
  exact (mapM_eq_ok_iff.mp hf).imp fun _ _ => describes_of_site?

-- Of a file that is listed, each line that is not blank holds a record, and each record that has a
-- step text is listed once, in order. In a session over that file all of them are counted, as
-- definitions or as failures.
theorem definitions_accounted (h : definitions d t p = .ok sites) :
    (∃ bytes records, t.read p = .ok bytes ∧ Forall₂ (HoldsObject d) (contents bytes) records ∧
      Forall₂ Describes (records.filter fun r => (stepText? r).isSome) sites) ∧
    ∀ c, Catalog.build sites = .ok c → c.definitions.length + c.failures.length = sites.length ∧
      ∀ settings before m, (∀ step ∈ before, ListsOnly (definitions d t p) step) →
        m.listings.definitions = definitions d t p →
        let s := (Session.run { settings := settings } before).2
        (s.perform m .countDefinitions).value = .count c.definitions.length ∧
          (s.perform m .failures).value = .failures c.failures := by
  constructor
  case left =>
    obtain ⟨records, hr, hs⟩ := describes_of_definitions h
    obtain ⟨bytes, hb⟩ := exists_read_of_loadLines hr
    exact ⟨bytes, records, hb, (loadLines_eq_ok_iff_forall₂ hb).mp hr, hs⟩
  case right =>
    intro c hc
    rw [h]
    exact ⟨Catalog.length_of_build hc, fun settings _ _ => Session.statistics_of_build hc settings⟩

end

-- A line number that is none, a blank line, a number in place of a blank text, a record that says
-- nothing, and a text that is malformed.
def accountTree : FileTree where
  entries := [(⟨"", ["d"]⟩, .file <| String.toUTF8 <|
    "\x7b\"text\": \"I log in\", \"line\": 0, \"group_label\": \"g\"\x7d\n\n" ++
    "\x7b\"text\": \" \", \"method_name\": 7, \"group_label\": \"g\"\x7d\n" ++
    "\x7b\"text\": false, \"method_name\": \"\"\x7d\n" ++
    "\x7b\"text\": \"^(\", \"line\": \" 5 \", \"group_label\": \"g\"\x7d\x0d\n")]

def accountSites : List DefinitionSite :=
  [⟨"I log in", "", 1, "g"⟩, ⟨"7", "", 1, "g"⟩, ⟨"^(", "", 5, "g"⟩]

theorem definitions_accounted_records :
    definitions .strict accountTree ⟨"", ["d"]⟩ = .ok accountSites ∧
    (∃ bytes records, accountTree.read ⟨"", ["d"]⟩ = .ok bytes ∧
      Forall₂ (HoldsObject .strict) (contents bytes) records ∧
      Forall₂ Describes (records.filter fun r => (stepText? r).isSome) accountSites) ∧
    ∃ c, Catalog.build accountSites = .ok c ∧ c.definitions.length + c.failures.length = 3 ∧
      let m : Moment := ⟨{}, { definitions := .ok accountSites }⟩
      let s := (Session.run {} [(m, .failures), (m, .invalidate)]).2
      (s.perform m .countDefinitions).value = .count c.definitions.length ∧
        (s.perform m .failures).value = .failures c.failures := by
  have hd : definitions .strict accountTree ⟨"", ["d"]⟩ = .ok accountSites := by decide +kernel
  have hs : ∀ s ∈ accountSites, s.Settles := by decide +kernel
  have hb := Catalog.build_eq_ok_iff.mpr ⟨hs, rfl⟩
  obtain ⟨hf, hc⟩ := definitions_accounted hd
  obtain ⟨hn, hc⟩ := hc _ hb
  refine ⟨hd, hf, _, hb, hn, hc {} _ _ ?_ hd.symm⟩
  simp only [forall_mem_cons, not_mem_nil, false_imp_iff, implies_true, and_true]
  exact ⟨⟨hd.symm, nofun⟩, ⟨hd.symm, nofun⟩⟩

end StepCatalog.Extract
