import Mathlib
import StepCatalog.Proofs.Catalog.Parts
import StepCatalog.Proofs.Search.Filtering
import StepCatalog.Proofs.Text.Trimming

namespace StepCatalog

open List Search

/-! ### Tallies -/

theorem nodup_eraseDups [DecidableEq α] : (l : List α) → l.eraseDups.Nodup
  | [] => nodup_nil
  | a :: l => by
    rw [eraseDups_cons, nodup_cons]
    exact ⟨by simp, nodup_eraseDups <| l.filter fun b => !b == a⟩
termination_by l => l.length
decreasing_by exact Nat.lt_succ_of_le <| length_filter_le ..

theorem keys_tally_perm (labels : List String) : (tally labels).map (·.1) ~ labels.dedup := by
  calc (tally labels).map (·.1)
    _ = labels.eraseDups.mergeSort fun a b => a ≤ b := by simp [tally, Function.comp_def]
    _ ~ labels.eraseDups := mergeSort_perm ..
    _ ~ labels.dedup :=
      (perm_ext_iff_of_nodup (nodup_eraseDups _) (nodup_dedup _)).mpr fun _ => by simp

-- No label stands there twice.
theorem nodup_keys_tally (labels : List String) : ((tally labels).map (·.1)).Nodup :=
  (keys_tally_perm labels).nodup_iff.mpr <| nodup_dedup labels

theorem getD_lookup_tally (labels : List String) (l : String) :
    ((tally labels).lookup l).getD 0 = labels.count l := by
  by_cases hl : l ∈ labels
  case pos =>
    rw [tally, lookup_graph (labels.count ·) (by simpa using hl), Option.getD_some]
  case neg =>
    have hn : (tally labels).lookup l = none := by
      refine lookup_eq_none_iff.mpr fun e he => bne_iff_ne.mpr ?_
      rintro rfl
      exact hl <| mem_dedup.mp <| (keys_tally_perm labels).mem_iff.mp <| mem_map_of_mem he
    rw [hn, count_eq_zero_of_not_mem hl, Option.getD_none]

theorem sum_tally (labels : List String) : ((tally labels).map (·.2)).sum = labels.length := by
  have hv : (tally labels).map (·.2) = ((tally labels).map (·.1)).map (labels.count ·) := by
    simp [tally]
  rw [hv, ((keys_tally_perm labels).map _).sum_eq, sum_map_count_dedup_eq_length]

theorem length_filter_ne_add_count (labels : List String) (l : String) :
    (labels.filter (· != l)).length + labels.count l = labels.length := by
  rw [count, countP_eq_length_filter, add_comm]
  exact (length_eq_length_filter_add (· == l)).symm

/-! ### Screens -/

theorem strip_screenTag (raw : List Char) :
    Text.stripChars (StepText.screenTag raw) = StepText.screenTag raw := by
  rw [StepText.screenTag]
  split
  case isTrue => rfl
  case isFalse => exact Text.stripChars_stripChars _

-- A screen is trimmed, so it is blank only if there is none.
theorem DefinitionSite.Defines.isBlankText_screen [Runtime] {s : DefinitionSite} (h : s.Defines d) :
    Text.isBlankText d.screen ↔ d.screen = "" := by
  rw [h.screen, Text.isBlankText, String.toList_ofList]
  constructor
  case mp =>
    intro hb
    have := Text.stripChars_of_isBlank <| all_eq_true.mp hb
    rw [strip_screenTag] at this
    rw [this]
  case mpr =>
    intro hn
    have : StepText.screenTag s.text.toList = [] := by simpa using congrArg String.toList hn
    rw [this]
    rfl

/-! ### Searches for all -/

variable {definitions : List StepDefinition} {query : String}

theorem length_findSteps_of_blank (hq : Text.isBlankText query)
    (definitions : List StepDefinition) (filter : Filter) :
    (findSteps definitions filter query).length = definitions.countP (filter.Admits ·) := by
  rw [(findSteps_perm_answers ..).length_eq, length_map, answers, countP_eq_length_filter]
  simp [score_of_blank hq]

theorem length_findSteps_group (hq : Text.isBlankText query) (g : String) :
    (findSteps definitions { groups := some [g] } query).length =
      (definitions.map (·.group)).count g := by
  rw [length_findSteps_of_blank hq, count, countP_map]
  exact countP_congr fun d _ => by simp [Filter.Admits]

theorem length_findSteps_screen (hq : Text.isBlankText query) (t : String) :
    (findSteps definitions { screen := some t } query).length =
      (definitions.map (·.screen)).count t := by
  rw [length_findSteps_of_blank hq, count, countP_map]
  exact countP_congr fun d _ => by simp [Filter.Admits]

namespace Catalog

variable {sites : List DefinitionSite} {c : Catalog}

theorem screenCounts_of_build [Runtime] (h : build sites = .ok c) :
    c.screenCounts = tally ((c.definitions.map (·.screen)).filter (· != "")) := by
  refine congrArg tally <| filter_congr fun s hs => ?_
  have ⟨d, hd, he⟩ := mem_map.mp hs
  have ⟨_, _, hd⟩ := exists_defines_of_build h hd
  have hb := hd.isBlankText_screen
  rw [he] at hb
  rw [Bool.eq_iff_iff, bne_iff_ne, Bool.not_eq_true', ← Bool.not_eq_true, hb]

-- The counts of a catalog are the numbers of results that a search for all of a group or of a screen
-- has. Every definition is counted for its group, and for its screen if it has one.
theorem counts_of_build [Runtime] (h : build sites = .ok c) :
    (∀ g, (c.groupCounts.lookup g).getD 0 =
      (findSteps c.definitions { groups := some [g] } "").length) ∧
    (∀ t, t ≠ "" → (c.screenCounts.lookup t).getD 0 =
      (findSteps c.definitions { screen := some t } "").length) ∧
    (c.groupCounts.map (·.1)).Nodup ∧ (c.screenCounts.map (·.1)).Nodup ∧
    (c.groupCounts.map (·.2)).sum = c.definitions.length ∧
    (c.screenCounts.map (·.2)).sum + (findSteps c.definitions { screen := some "" } "").length =
      c.definitions.length := by
  have hq : Text.isBlankText "" := rfl
  refine ⟨?group, ?screen, nodup_keys_tally _, nodup_keys_tally _, ?groups, ?screens⟩
  case group =>
    intro g
    rw [groupCounts, getD_lookup_tally, length_findSteps_group hq]
  case screen =>
    intro t ht
    rw [screenCounts_of_build h, getD_lookup_tally, count_filter (by simpa using ht),
      length_findSteps_screen hq]
  case groups => rw [groupCounts, sum_tally, length_map]
  case screens =>
    rw [screenCounts_of_build h, sum_tally, length_findSteps_screen hq, length_filter_ne_add_count,
      length_map]

-- Two definitions of one screen, one of none, and a text that is malformed.
theorem counts_of_build_login :
    let site (text group : String) : DefinitionSite := ⟨text, "a", 1, group⟩
    let sites := [site "Login: I log in" "g", site "^(" "g", site "Login: I log out" "h",
      site "I wait" "g"]
    ∃ c, build sites = .ok c ∧ c.groupCounts = [("g", 2), ("h", 1)] ∧
      c.screenCounts = [("Login", 2)] ∧
      (findSteps c.definitions { groups := some ["g"] } "").length = 2 ∧
      (findSteps c.definitions { screen := some "Login" } "").length = 2 := by
  intro site sites
  have hs : ∀ s ∈ sites, s.Settles := by decide +kernel
  have hb := build_eq_ok_iff.mpr ⟨hs, rfl⟩
  have hgroups : (ofSites sites).definitions.map (·.group) = ["g", "h", "g"] := by decide +kernel
  have hscreens : (ofSites sites).definitions.map (·.screen) = ["Login", "Login", ""] := by
    decide +kernel
  have hg : (ofSites sites).groupCounts = [("g", 2), ("h", 1)] := by
    rw [groupCounts, hgroups]
    cbv
  have ht : (ofSites sites).screenCounts = [("Login", 2)] := by
    rw [screenCounts, hscreens]
    cbv
  obtain ⟨group, screen, _⟩ := counts_of_build hb
  exact ⟨_, hb, hg, ht, by rw [← group, hg]; rfl, by rw [← screen _ (by decide), ht]; rfl⟩

end Catalog

end StepCatalog
