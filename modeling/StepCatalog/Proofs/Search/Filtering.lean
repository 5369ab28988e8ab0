import Mathlib
import StepCatalog.Proofs.Search.Ranking

namespace StepCatalog.Search

open List

variable {α κ : Type} {p : α → Bool} {definitions : List StepDefinition} {filter : Filter}
  {query : String}

/-! ### Sorting a part of a list -/

theorem filter_append_of_forall {l₁ l₂ : List α} (h₁ : ∀ a ∈ l₁, p a = false) (h₂ : ∀ a ∈ l₂, p a) :
    (l₁ ++ l₂).filter p = l₂ := by
  have hn : l₁.filter p = [] := filter_eq_nil_iff.mpr <| by simpa using h₁
  rw [filter_append, hn, filter_eq_self.mpr h₂, nil_append]

section

variable {le : α → α → Bool} (trans : ∀ a b c, le a b → le b c → le a c)
  (total : ∀ a b, le a b || le b a)

include trans total

-- One more element in front goes before all that it is not above, and so before its equals.
theorem exists_mergeSort_cons (a : α) (l : List α) :
    ∃ l₁ l₂, (a :: l).mergeSort le = l₁ ++ a :: l₂ ∧ l.mergeSort le = l₁ ++ l₂ ∧
      (∀ b ∈ l₁, le a b = false) ∧ ∀ b ∈ l₂, le a b := by
  have ⟨l₁, l₂, hs, hl, hb⟩ := mergeSort_cons trans total a l
  have hp := pairwise_append.mp <| hs ▸ pairwise_mergeSort trans total (a :: l)
  exact ⟨l₁, l₂, hs, hl, by simpa using hb, (pairwise_cons.mp hp.2.1).1⟩

theorem mergeSort_cons_of_append (hl : l.mergeSort le = l₁ ++ l₂) (h₁ : ∀ b ∈ l₁, le a b = false)
    (h₂ : ∀ b ∈ l₂, le a b) : (a :: l).mergeSort le = l₁ ++ a :: l₂ := by
  have ⟨m₁, m₂, hs, hm, hm₁, hm₂⟩ := exists_mergeSort_cons trans total a l
  have he : m₁ ++ m₂ = l₁ ++ l₂ := hm.symm.trans hl
  have hf := congrArg (List.filter (le a)) he
  rw [filter_append_of_forall hm₁ hm₂, filter_append_of_forall h₁ h₂] at hf
  subst hf
  rw [hs, append_cancel_right he]

-- A stable sort brings a part of a list into the order that it has in the whole.
theorem filter_mergeSort (p : α → Bool) (l : List α) :
    (l.mergeSort le).filter p = (l.filter p).mergeSort le := by
  induction l
  case nil => simp
  case cons a l hi =>
    have ⟨l₁, l₂, hs, hl, h₁, h₂⟩ := exists_mergeSort_cons trans total a l
    rw [hl, filter_append] at hi
    rw [hs, filter_append]
    cases hp : p a
    case false => simpa [hp] using hi
    case true =>
      rw [filter_cons_of_pos hp, filter_cons_of_pos hp]
      symm
      refine mergeSort_cons_of_append trans total hi.symm ?_ ?_
      case refine_1 => exact fun b hb => h₁ b <| mem_of_mem_filter hb
      case refine_2 => exact fun b hb => h₂ b <| mem_of_mem_filter hb

end

-- A list is made up of its parts, one for each key that occurs in it.
theorem flatMap_filter_perm [DecidableEq κ] {key : α → κ} {keys : List κ} {l : List α}
    (hn : keys.Nodup) (hk : ∀ a ∈ l, key a ∈ keys) :
    (keys.flatMap fun k => l.filter (key · = k)) ~ l := by
  induction keys generalizing l
  case nil => simpa [eq_nil_iff_forall_not_mem] using hk
  case cons k keys hi =>
    have ⟨hm, hn⟩ := nodup_cons.mp hn
    let rest := l.filter fun a => !decide (key a = k)
    have hr : ∀ a ∈ rest, key a ∈ keys := by
      intro a ha
      have ⟨ha, hne⟩ := mem_filter.mp ha
      simpa [show key a ≠ k by simpa using hne] using hk a ha
    have he : ∀ k' ∈ keys, l.filter (key · = k') = rest.filter (key · = k') := by
      intro k' hk'
      rw [filter_filter]
      refine filter_congr ?_
      intro a _
      by_cases ha : key a = k'
      case neg => simp [ha]
      case pos => simp [ha, show k' ≠ k by rintro rfl; exact hm hk']
    calc
      (k :: keys).flatMap fun k => l.filter (key · = k)
      _ = l.filter (key · = k) ++ keys.flatMap fun k => rest.filter (key · = k) := by
        rw [flatMap_cons, flatMap_congr he]
      _ ~ l.filter (key · = k) ++ rest := (hi hn hr).append_left _
      _ ~ l := filter_append_perm _ l

/-! ### Filters and the ranking -/

theorem answers_eq_filter : answers definitions filter query =
    (answers definitions {} query).filter (filter.Admits ·) := by
  simp only [answers, filter_filter]
  refine filter_congr ?_
  intro d _
  simp [Filter.Admits]

-- Under a filter the definitions are ranked as they are without one, and only some are left out.
theorem findSteps_eq_filter : findSteps definitions filter query =
    ((ranking definitions {} query).filter fun d => filter.Admits d.1).map fun d => hit d.1 := by
  rw [findSteps_eq_mergeSort, answers_eq_filter,
    ← filter_mergeSort (outranks_trans query) (outranks_total query), ← map_fst_ranking, filter_map,
    map_map]
  rfl

theorem findSteps_perm_answers (definitions : List StepDefinition) (filter : Filter)
    (query : String) :
    findSteps definitions filter query ~ (answers definitions filter query).map hit := by
  rw [findSteps_eq_mergeSort]
  exact (mergeSort_perm ..).map hit

theorem answers_of_group (definitions : List StepDefinition) (screen : Option String)
    (query group : String) :
    answers definitions { groups := some [group], screen := screen } query =
      (answers definitions { screen := screen } query).filter (·.group = group) := by
  simp only [answers, filter_filter]
  refine filter_congr ?_
  intro d _
  simp [Filter.Admits, and_assoc]

-- There is one order of the definitions that answer a query, and under any filter a search gives
-- the results of those that pass it, in that order. The results for the groups that occur are,
-- all together, those for no group in particular.
theorem findSteps_filtered (definitions : List StepDefinition) (query : String) :
    (∃ order, order ~ (answers definitions {} query).zipIdx ∧ order.Pairwise (Precedes query) ∧
      findSteps definitions {} query = order.map (fun d => hit d.1) ∧
      ∀ filter : Filter, findSteps definitions filter query =
        (order.filter fun d => filter.Admits d.1).map fun d => hit d.1) ∧
    ∀ screen, ((definitions.map (·.group)).dedup.flatMap fun group =>
        findSteps definitions { groups := some [group], screen := screen } query) ~
      findSteps definitions { screen := screen } query := by
  constructor
  case left =>
    exact ⟨_, ranking_perm .., ranking_pairwise .., findSteps_eq_ranking, fun _ =>
      findSteps_eq_filter⟩
  case right =>
    intro screen
    let groups := (definitions.map (·.group)).dedup
    let found := answers definitions { screen := screen } query
    have hg : ∀ d ∈ found, d.group ∈ groups := fun d hd =>
      mem_dedup.mpr <| mem_map_of_mem <| mem_of_mem_filter hd
    calc
      groups.flatMap fun group =>
        findSteps definitions { groups := some [group], screen := screen } query
      _ ~ groups.flatMap fun group => (found.filter (·.group = group)).map hit := by
        refine Perm.flatMap_left _ ?_
        intro group _
        exact answers_of_group definitions screen query group ▸ findSteps_perm_answers ..
      _ = (groups.flatMap fun group => found.filter (·.group = group)).map hit :=
        (map_flatMap ..).symm
      _ ~ found.map hit := (flatMap_filter_perm (nodup_dedup _) hg).map hit
      _ ~ findSteps definitions { screen := screen } query := (findSteps_perm_answers ..).symm

end StepCatalog.Search
