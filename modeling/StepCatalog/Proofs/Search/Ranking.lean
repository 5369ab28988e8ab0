import Mathlib
import StepCatalog.Search.Rank

namespace StepCatalog.Search

open List

variable {definitions : List StepDefinition} {filter : Filter} {query : String}

/-! ### What is ranked -/

-- A definition passes a filter if its group is one of those asked for and its screen is the one
-- asked for. A filter that is absent asks for nothing.
def Filter.Admits (f : Filter) (d : StepDefinition) : Prop :=
  (∀ gs ∈ f.groups, d.group ∈ gs) ∧ ∀ s ∈ f.screen, d.screen = s

theorem Filter.accepts_iff {f : Filter} : f.accepts d ↔ f.Admits d := by
  simp only [accepts, Admits, Bool.and_eq_true, Option.all_eq_true, List.contains_iff_mem,
    beq_iff_eq, Option.mem_def, @eq_comm _ d.screen]

instance (f : Filter) : DecidablePred f.Admits :=
  fun _ => decidable_of_iff _ f.accepts_iff

-- The definitions that answer a query, in the order of the catalog.
def answers (definitions : List StepDefinition) (filter : Filter) (query : String) :
    List StepDefinition :=
  definitions.filter fun d => filter.Admits d ∧ score d.display query ≠ none

-- Of two definitions at places of a list, the one with the better score comes first, then the one
-- with the lesser text, and then the one at the earlier place.
def Precedes (query : String) (a b : StepDefinition × Nat) : Prop :=
  ∃ m n, score a.1.display query = some m ∧ score b.1.display query = some n ∧
    (n < m ∨ n = m ∧
      (a.1.display < b.1.display ∨ a.1.display = b.1.display ∧ a.2 < b.2))

/-! ### The order of hits -/

theorem ranksBefore_iff :
    ranksBefore a b ↔ b.1 < a.1 ∨ a.1 = b.1 ∧ a.2.text ≤ b.2.text := by
  simp [ranksBefore]

theorem ranksBefore_trans (a b c : Int × StepReference)
    (h₁ : ranksBefore a b) (h₂ : ranksBefore b c) : ranksBefore a c := by
  rw [ranksBefore_iff] at *
  rcases h₁ with h₁ | ⟨h₁, ht₁⟩ <;> rcases h₂ with h₂ | ⟨h₂, ht₂⟩
  case inr.inr => exact .inr ⟨h₁.trans h₂, String.le_trans ht₁ ht₂⟩
  all_goals exact .inl <| by omega

theorem ranksBefore_total (a b : Int × StepReference) : ranksBefore a b || ranksBefore b a := by
  rw [Bool.or_eq_true, ranksBefore_iff, ranksBefore_iff]
  rcases Int.lt_trichotomy a.1 b.1 with h | h | h
  case inl => exact .inr <| .inl h
  case inr.inr => exact .inl <| .inl h
  case inr.inl =>
    cases String.le_total a.2.text b.2.text
    case inl ht => exact .inl <| .inr ⟨h, ht⟩
    case inr ht => exact .inr <| .inr ⟨h.symm, ht⟩

/-! ### The order of definitions -/

-- What a definition is ranked by. Only definitions with a score are ranked.
def standing (query : String) (d : StepDefinition) : Int × StepReference :=
  ((score d.display query).getD 0, hit d)

def outranks (query : String) (a b : StepDefinition) : Bool :=
  ranksBefore (standing query a) (standing query b)

theorem outranks_trans (query : String) (a b c : StepDefinition)
    (h₁ : outranks query a b) (h₂ : outranks query b c) : outranks query a c :=
  ranksBefore_trans _ _ _ h₁ h₂

theorem outranks_total (query : String) (a b : StepDefinition) :
    outranks query a b || outranks query b a :=
  ranksBefore_total _ _

-- The definitions that answer a query, the best ones first, with their places among the answers.
def ranking (definitions : List StepDefinition) (filter : Filter) (query : String) :
    List (StepDefinition × Nat) :=
  (answers definitions filter query).zipIdx.mergeSort (zipIdxLE (outranks query))

theorem ranking_perm (definitions : List StepDefinition) (filter : Filter) (query : String) :
    ranking definitions filter query ~ (answers definitions filter query).zipIdx :=
  mergeSort_perm _ _

theorem map_fst_ranking :
    (ranking definitions filter query).map (·.1) =
      (answers definitions filter query).mergeSort (outranks query) :=
  mergeSort_zipIdx

theorem precedes_of_zipIdxLE (ha : score a.1.display query ≠ none)
    (hb : score b.1.display query ≠ none) (h : zipIdxLE (outranks query) a b) (hn : a.2 ≠ b.2) :
    Precedes query a b := by
  have ⟨m, hm⟩ := Option.ne_none_iff_exists'.mp ha
  have ⟨n, hn'⟩ := Option.ne_none_iff_exists'.mp hb
  refine ⟨m, n, hm, hn', ?_⟩
  simp only [zipIdxLE, outranks, ranksBefore_iff, standing, hit, hm, hn', Option.getD_some] at h
  split at h
  case isFalse => exact absurd h Bool.false_ne_true
  case isTrue h₁ =>
    rcases h₁ with h₁ | ⟨rfl, ht⟩
    case inl => exact .inl h₁
    case inr =>
      refine .inr ⟨rfl, ?_⟩
      split at h
      case isTrue h₂ =>
        rcases h₂ with h₂ | ⟨_, ht'⟩
        case inl => exact absurd h₂ (Int.lt_irrefl _)
        case inr =>
          have := of_decide_eq_true h
          exact .inr ⟨String.le_antisymm ht ht', by omega⟩
      case isFalse h₂ =>
        refine .inl ?_
        by_contra hl
        exact h₂ <| .inr ⟨rfl, String.not_lt.mp hl⟩

theorem ranking_pairwise (definitions : List StepDefinition) (filter : Filter) (query : String) :
    (ranking definitions filter query).Pairwise (Precedes query) := by
  have hp := ranking_perm definitions filter query
  have hs : ∀ a ∈ ranking definitions filter query, score a.1.display query ≠ none := by
    intro a ha
    have hm := (mem_zipIdx <| hp.mem_iff.mp ha).2.2 ▸ getElem_mem _
    simpa [answers] using (of_decide_eq_true (mem_filter.mp hm).2).2
  have hl := pairwise_mergeSort (zipIdxLE_trans <| outranks_trans query)
    (zipIdxLE_total <| outranks_total query) (answers definitions filter query).zipIdx
  have hn : (ranking definitions filter query).Pairwise (·.2 ≠ ·.2) := by
    have := (hp.map (·.2)).nodup_iff.mpr <| by simp [nodup_range']
    exact pairwise_map.mp this
  refine (hl.and hn).imp_of_mem ?_
  intro a b ha hb ⟨h, hn⟩
  exact precedes_of_zipIdxLE (hs a ha) (hs b hb) h hn

/-! ### The two paths -/

theorem score_of_blank (h : Text.isBlankText query) (text : String) :
    score text query = some 0 := by
  simp [score, h]

theorem byScore_eq : byScore ((filter.keep definitions).map hit) query =
    ((answers definitions filter query).mergeSort (outranks query)).map hit := by
  have hs : ((filter.keep definitions).map hit).filterMap
      (fun h => (score h.text query).map (·, h)) =
        (answers definitions filter query).map (standing query) := by
    induction definitions
    case nil => rfl
    case cons d definitions hi =>
      simp only [Filter.keep, answers, filter_cons, Filter.accepts_iff] at hi ⊢
      by_cases hf : filter.Admits d <;> cases hc : score d.display query <;>
        simp [hf, hc, hi, hit, standing]
  simp only [byScore, hs]
  rw [← map_mergeSort (r := outranks query) (f := standing query) (fun _ _ _ _ => rfl), map_map]
  rfl

-- Under a blank query all scores are the same, and only the texts are compared.
theorem rank_eq_byScore : rank hits query = byScore hits query := by
  rw [rank]
  split
  case isFalse => rfl
  case isTrue h =>
    simp only [byScore, score_of_blank h, Option.map_some, filterMap_eq_map']
    have hr (a b : StepReference) : decide (a.text ≤ b.text) = ranksBefore (0, a) (0, b) := by
      simp [ranksBefore]
    rw [← map_mergeSort (f := fun h => (0, h)) (fun a _ b _ => hr a b), map_map]
    exact (map_id _).symm

theorem findSteps_eq_mergeSort : findSteps definitions filter query =
    ((answers definitions filter query).mergeSort (outranks query)).map hit := by
  rw [findSteps, rank_eq_byScore, byScore_eq]

theorem exists_of_mem_findSteps (h : r ∈ findSteps definitions filter query) :
    ∃ d ∈ definitions, hit d = r := by
  rw [findSteps_eq_mergeSort] at h
  have ⟨d, hd, he⟩ := mem_map.mp h
  exact ⟨d, mem_of_mem_filter <| mem_mergeSort.mp hd, he⟩

theorem findSteps_eq_ranking : findSteps definitions filter query =
    (ranking definitions filter query).map fun d => hit d.1 := by
  rw [findSteps_eq_mergeSort, ← map_fst_ranking, map_map]
  rfl

/-! ### The order of the catalog -/

-- All that definitions are compared by is in their texts.
def TextOutranks (query : String) (s t : String) : Prop :=
  (score t query).getD 0 < (score s query).getD 0 ∨
    (score s query).getD 0 = (score t query).getD 0 ∧ s ≤ t

theorem outranks_iff : outranks query a b ↔ TextOutranks query a.display b.display :=
  ranksBefore_iff

theorem TextOutranks.antisymm (h₁ : TextOutranks query s t) (h₂ : TextOutranks query t s) :
    s = t := by
  rcases h₁ with h₁ | ⟨_, h₁⟩ <;> rcases h₂ with h₂ | ⟨_, h₂⟩
  case inr.inr => exact String.le_antisymm h₁ h₂
  all_goals omega

theorem map_text_findSteps : (findSteps definitions filter query).map (·.text) =
    ((answers definitions filter query).mergeSort (outranks query)).map (·.display) := by
  rw [findSteps_eq_mergeSort, map_map]
  rfl

theorem map_text_findSteps_of_perm (h : definitions' ~ definitions) :
    (findSteps definitions' filter query).map (·.text) =
      (findSteps definitions filter query).map (·.text) := by
  have hs (l : List StepDefinition) : ((l.mergeSort (outranks query)).map (·.display)).Pairwise
      (TextOutranks query) := by
    rw [pairwise_map]
    exact (pairwise_mergeSort (outranks_trans query) (outranks_total query) l).imp outranks_iff.mp
  have hp := calc
    (answers definitions' filter query).mergeSort (outranks query)
    _ ~ answers definitions' filter query := mergeSort_perm ..
    _ ~ answers definitions filter query := h.filter _
    _ ~ (answers definitions filter query).mergeSort (outranks query) := (mergeSort_perm ..).symm
  rw [map_text_findSteps, map_text_findSteps]
  exact (hp.map _).eq_of_pairwise (fun _ _ _ _ => TextOutranks.antisymm) (hs _) (hs _)

-- A search gives one result for each definition that passes the filter and has a score, the best
-- score first, then by text, and then as in the catalog. The path for a blank query gives what the
-- other one would, and the order of the catalog does not show in the texts.
theorem findSteps_ranked (definitions : List StepDefinition) (filter : Filter) (query : String) :
    (∃ order, order ~ (answers definitions filter query).zipIdx ∧
      order.Pairwise (Precedes query) ∧
      findSteps definitions filter query = order.map fun d => hit d.1) ∧
    findSteps definitions filter query = byScore ((filter.keep definitions).map hit) query ∧
    ∀ definitions', definitions' ~ definitions →
      (findSteps definitions' filter query).map (·.text) =
        (findSteps definitions filter query).map (·.text) :=
  ⟨⟨_, ranking_perm .., ranking_pairwise .., findSteps_eq_ranking⟩, rank_eq_byScore,
    fun _ h => map_text_findSteps_of_perm h⟩

-- Two definitions with one text and one score, and a third one that has a better score.
theorem findSteps_ranked_pay :
    let pay (path : String) : StepDefinition :=
      ⟨⟨"we pay", "^we\\ pay$", ⟨.empty, stepFlags, 0⟩, ["we pay"]⟩, path, 1, "cart", ""⟩
    let now : StepDefinition :=
      ⟨⟨"pay now", "^pay\\ now$", ⟨.empty, stepFlags, 0⟩, ["pay now"]⟩, "c", 1, "cart", ""⟩
    [pay "b", pay "a", now] ~ [pay "a", now, pay "b"] ∧
      findSteps [pay "a", now, pay "b"] {} "PAY" =
        [⟨"pay now", "c", 1⟩, ⟨"we pay", "a", 1⟩, ⟨"we pay", "b", 1⟩] ∧
      (findSteps [pay "b", pay "a", now] {} "PAY").map (·.text) =
        (findSteps [pay "a", now, pay "b"] {} "PAY").map (·.text) := by
  intro pay now
  have hp : [pay "b", pay "a", now] ~ [pay "a", now, pay "b"] := by decide
  exact ⟨hp, by cbv, (findSteps_ranked _ {} "PAY").2.2 _ hp⟩

end StepCatalog.Search
