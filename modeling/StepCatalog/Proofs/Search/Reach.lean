import Mathlib
import StepCatalog.Proofs.Search.Tokens
import StepCatalog.Proofs.Text.Runs

namespace StepCatalog.Search

open List Text

variable {query text : String}

-- A text has tokens whose characters stand together in its runs of letters and digits.
theorem hasTokens_iff {text : List Char} : hasTokens text tokens ↔
    ∀ t ∈ tokens, ∃ run, IsRun isWordChar run (lowerChars text) ∧ t <:+: run := by
  simp only [hasTokens, words, all_eq_true, any_eq_true, occursIn_iff, exists_mem_splitRuns_iff,
    exists_isRun_iff, Bool.not_eq_false']

theorem score_of_not_hasTokens (hq : ¬isBlankText query)
    (h : ¬hasTokens text.toList (tokenize query.toList)) : score text query = none := by
  rw [score, if_neg hq, if_neg h]

theorem score_of_isDirect (hq : ¬isBlankText query)
    (ht : hasTokens text.toList (tokenize query.toList)) (h : IsDirect query text) :
    ∃ i, FirstAt (lowerChars query.toList) (lowerChars text.toList) i ∧
      score text query = some (300 - (i : Int)) := by
  have ⟨i, hf⟩ := exists_firstAt h
  have hi := indexOf?_eq_some_iff.mpr hf
  refine ⟨i, hf, ?_⟩
  simp only [score, if_neg hq, if_pos ht, scoreTokens, hi, exactBase]

theorem infix_of_mem_unglue (h : t ∈ unglue tokens) : ∃ t' ∈ tokens, t <:+: t' := by
  simp only [unglue] at h
  split at h
  case h_2 => exact ⟨t, h, infix_rfl⟩
  case h_1 t' =>
    refine ⟨t', mem_cons_self, ?_⟩
    split at h
    case isFalse => exact mem_singleton.mp h ▸ infix_rfl
    case isTrue hp =>
      have hp := isPrefixOf_iff_prefix.mp <| (Bool.and_eq_true ..).mp hp |>.left
      rcases mem_pair.mp h with rfl | rfl
      case inl => exact hp.isInfix
      case inr => exact (drop_suffix ..).isInfix

-- A token is a part of the query in lowercase.
theorem infix_of_mem_tokenize {query : List Char} (h : t ∈ tokenize query) :
    t <:+: lowerChars query := by
  rw [tokenize_eq, ← pieces_lowerChars] at h
  have ⟨w, hw, ht⟩ := infix_of_mem_unglue h
  exact ht.trans <| infix_of_mem_pieces hw

theorem hasTokens_of_isDirect (ht : ∀ t ∈ tokenize query.toList, ∀ c ∈ t, isWordChar c)
    (h : IsDirect query text) : hasTokens text.toList (tokenize query.toList) := by
  refine hasTokens_iff.mpr ?_
  intro t hm
  exact exists_isRun_iff.mpr ⟨(infix_of_mem_tokenize hm).trans h, ht t hm⟩

theorem tokenize_of_word {query : List Char} (hn : query ≠ []) (hb : ∀ c ∈ query, isBlank c = false)
    (hu : gluedWord <+: lowerChars query → lowerChars query = gluedWord) :
    tokenize query = [lowerChars query] := by
  rw [tokenize_eq, pieces_of_forall_not hb, filter_cons_of_pos (by simpa using hn), filter_nil,
    map_cons, map_nil, unglue]
  split
  case isFalse => rfl
  case isTrue h =>
    have h := (Bool.and_eq_true ..).mp h
    have he := hu <| isPrefixOf_iff_prefix.mp h.left
    simp [he] at h

-- The query stands in a text within one run of letters and digits.
def IsInWord (query text : String) : Prop :=
  ∃ run, IsRun isWordChar run (lowerChars text.toList) ∧ lowerChars query.toList <:+: run

instance : Decidable (IsInWord query text) :=
  decidable_of_iff (IsDirect query text ∧ (lowerChars query.toList).all isWordChar) <| by
    rw [all_eq_true]
    exact exists_isRun_iff.symm

theorem IsInWord.isDirect (h : IsInWord query text) : IsDirect query text :=
  exists_isRun_iff.mp h |>.left

-- Tokens are looked for in runs of letters and digits, so that a query with any other token matches
-- nothing at all. If it has none, what the whole query stands in is a direct hit. And a query of a
-- single word that is not taken apart has no other hits.
theorem score_reach (query : String) :
    (¬isBlankText query →
      ((∃ t ∈ tokenize query.toList, ∃ c ∈ t, ¬isWordChar c) → ∀ text, score text query = none) ∧
      ((∀ t ∈ tokenize query.toList, ∀ c ∈ t, isWordChar c) → ∀ text, IsDirect query text →
        ∃ i, FirstAt (lowerChars query.toList) (lowerChars text.toList) i ∧
          score text query = some (300 - (i : Int)))) ∧
    (query ≠ "" → (∀ c ∈ query.toList, ¬isBlank c) →
      (gluedWord <+: lowerChars query.toList → lowerChars query.toList = gluedWord) → ∀ text,
        (IsInWord query text →
          ∃ i, FirstAt (lowerChars query.toList) (lowerChars text.toList) i ∧
            score text query = some (300 - (i : Int))) ∧
        (¬IsInWord query text → score text query = none)) := by
  constructor
  case left =>
    intro hq
    constructor
    case left =>
      intro ⟨t, ht, c, hc, hw⟩ text
      exact score_of_not_hasTokens hq fun h => hw <| isWordChar_of_hasTokens h ht hc
    case right => exact fun ht text h => score_of_isDirect hq (hasTokens_of_isDirect ht h) h
  case right =>
    intro hn hb hu text
    have hn : query.toList ≠ [] := by simpa using hn
    have ht := tokenize_of_word hn (by simpa using hb) hu
    have hi : hasTokens text.toList (tokenize query.toList) ↔ IsInWord query text := by
      rw [ht, hasTokens_iff]
      exact forall_mem_singleton
    have hq : ¬isBlankText query := by
      intro hq
      have ⟨c, hc⟩ := exists_mem_of_ne_nil _ hn
      exact hb c hc <| all_eq_true.mp hq c hc
    exact ⟨fun h => score_of_isDirect hq (hi.mpr h) h.isDirect,
      fun h => score_of_not_hasTokens hq <| mt hi.mp h⟩

-- A hyphen makes a query unanswerable, and a word is found within a longer one.
theorem score_reach_log_in :
    ¬isBlankText "Log-in" ∧ (∃ t ∈ tokenize "Log-in".toList, ∃ c ∈ t, ¬isWordChar c) ∧
      score "Log-in" "Log-in" = none ∧
      (∀ t ∈ tokenize "I Log".toList, ∀ c ∈ t, isWordChar c) ∧ IsDirect "I Log" "Now I log in" ∧
      (∃ i, FirstAt (lowerChars "I Log".toList) (lowerChars "Now I log in".toList) i ∧
        score "Now I log in" "I Log" = some (300 - (i : Int))) ∧
      (∀ c ∈ "Log".toList, ¬isBlank c) ∧ ¬gluedWord <+: lowerChars "Log".toList ∧
      IsInWord "Log" "I prologue" ∧ ¬IsInWord "Log" "I l o g" ∧
      (∃ i, FirstAt (lowerChars "Log".toList) (lowerChars "I prologue".toList) i ∧
        score "I prologue" "Log" = some (300 - (i : Int))) ∧
      score "I l o g" "Log" = none := by
  have hx : ∃ t ∈ tokenize "Log-in".toList, ∃ c ∈ t, ¬isWordChar c :=
    ⟨"log-in".toList, by decide +kernel, '-', by decide, by decide⟩
  have ht : ∀ t ∈ tokenize "I Log".toList, ∀ c ∈ t, isWordChar c := by
    have ht : (tokenize "I Log".toList).all (·.all isWordChar) := by decide +kernel
    simpa only [all_eq_true] using ht
  have hd : IsDirect "I Log" "Now I log in" := by decide +kernel
  have hb : ∀ c ∈ "Log".toList, ¬isBlank c := by
    have hb : "Log".toList.all (!isBlank ·) := by decide +kernel
    simpa only [all_eq_true, Bool.not_eq_true', Bool.not_eq_true] using hb
  have hu : ¬gluedWord <+: lowerChars "Log".toList := by decide +kernel
  have hw : IsInWord "Log" "I prologue" ∧ ¬IsInWord "Log" "I l o g" := by decide +kernel
  have hi := (score_reach "Log").right (by decide) hb fun h => absurd h hu
  exact ⟨by decide, hx, (score_reach "Log-in").left (by decide) |>.left hx _, ht, hd,
    (score_reach "I Log").left (by decide) |>.right ht _ hd, hb, hu, hw.left, hw.right,
    (hi _).left hw.left, (hi _).right hw.right⟩

end StepCatalog.Search
