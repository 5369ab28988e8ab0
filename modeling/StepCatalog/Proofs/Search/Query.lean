import Mathlib
import StepCatalog.Proofs.Search.Tokens

namespace StepCatalog.Search

open List Text

variable {query : String} {text : List Char} {tokens : List (List Char)}

/-! ### Pieces -/

theorem tokenize_eq_unglue (query : List Char) :
    tokenize query = unglue (pieces isBlank (lowerChars (stripChars query))) := by
  rw [tokenize_eq, pieces_lowerChars, pieces_stripChars]

theorem unglue_eq_self (h : ∀ w ≠ [], tokens ≠ [gluedWord ++ w]) : unglue tokens = tokens := by
  simp only [unglue]
  split
  case h_2 => rfl
  case h_1 t =>
    split
    case isFalse => rfl
    case isTrue hg =>
      obtain ⟨hp, hl⟩ := (Bool.and_eq_true ..).mp hg
      obtain ⟨w, rfl⟩ := isPrefixOf_iff_prefix.mp hp
      refine absurd rfl <| h w ?_
      rintro rfl
      simp at hl

theorem nil_notMem_unglue (h : [] ∉ tokens) : [] ∉ unglue tokens := by
  by_cases hg : ∃ w ≠ [], tokens = [gluedWord ++ w]
  case pos =>
    obtain ⟨w, hw, rfl⟩ := hg
    rw [unglue_gluedWord hw]
    simp [gluedWord, Ne.symm hw]
  case neg => rwa [unglue_eq_self fun w hw he => hg ⟨w, hw, he⟩]

theorem nil_notMem_tokenize (query : List Char) : [] ∉ tokenize query := by
  rw [tokenize_eq_unglue]
  refine nil_notMem_unglue fun h => ?_
  simpa using of_mem_filter h

-- All that tokens consist of is in the query, in lowercase.
theorem of_mem_tokenize {query : List Char} (ht : t ∈ tokenize query) (hc : c ∈ t) :
    isBlank c = false ∧ isUpperLetter c = false := by
  have hm : c ∈ (tokenize query).flatten := mem_flatten_of_mem ht hc
  rw [flatten_tokenize] at hm
  have ⟨hm, hb⟩ := mem_filter.mp hm
  exact ⟨by simpa using hb, not_isUpperLetter_of_mem_lowerChars hm⟩

/-! ### What is searched for -/

theorem flatten_tokenize_eq_nil_iff {query : List Char} :
    (tokenize query).flatten = [] ↔ ∀ c ∈ query, isBlank c := by
  have hl : ((pieces isBlank query).map lowerChars).flatten = [] ↔
      (pieces isBlank query).flatten = [] := by
    simp only [flatten_eq_nil_iff, forall_mem_map, lowerChars, lowerAfter_eq_nil]
  rw [tokenize_eq, flatten_unglue, hl, flatten_pieces, filter_eq_nil_iff]
  simp only [Bool.not_eq_true', Bool.not_eq_false]

-- Where a text has all tokens of a query, there is nothing but blanks between letters and digits.
theorem clean_eq_flatten_tokenize {query : List Char} (h : hasTokens text (tokenize query)) :
    clean (lowerChars query) = (tokenize query).flatten := by
  rw [← clean_flatten_tokenize, clean, filter_eq_self]
  intro c hc
  obtain ⟨t, ht, hc⟩ := mem_flatten.mp hc
  exact isWordChar_of_hasTokens h ht hc

theorem clean_ne_nil (hq : ¬isBlankText query) (h : hasTokens text (tokenize query.toList)) :
    clean (lowerChars query.toList) ≠ [] := by
  rwa [clean_eq_flatten_tokenize h, ne_eq, flatten_tokenize_eq_nil_iff, ← all_eq_true,
    ← isBlankText]

-- The tokens of a query are its words in lowercase, but for a single one that begins with `user` and
-- goes on, and together they are the query without its blanks. Where a text has all of them, that is
-- also what is looked for among the letters and digits of the text, and it is never nothing.
theorem tokenize_words (query : String) :
    let lower := lowerChars query.toList
    let trimmed := lowerChars (stripChars query.toList)
    let tokens := tokenize query.toList
    (∀ t ∈ tokens, t ≠ [] ∧ ∀ c ∈ t, isBlank c = false ∧ isUpperLetter c = false) ∧
    tokens.flatten = lower.filter (!isBlank ·) ∧
    (∀ w ≠ [], pieces isBlank trimmed = [gluedWord ++ w] → tokens = [gluedWord, w]) ∧
    ((∀ w ≠ [], pieces isBlank trimmed ≠ [gluedWord ++ w]) → tokens = pieces isBlank trimmed) ∧
    (∀ p ∈ splitRuns isBlank trimmed,
      splitBetween (fun c d => isLowerLetter c && isUpperLetter d) p = [p]) ∧
    ∀ text : String, ¬isBlankText query → hasTokens text.toList tokens →
      clean lower = tokens.flatten ∧ clean lower ≠ [] := by
  intro lower trimmed tokens
  have ht : tokens = unglue (pieces isBlank trimmed) := tokenize_eq_unglue query.toList
  refine ⟨?_, flatten_tokenize _, ?_, ?_, fun _ => splitBetween_of_mem_splitRuns, ?_⟩
  case refine_1 =>
    intro t hm
    refine ⟨?_, fun c hc => of_mem_tokenize hm hc⟩
    rintro rfl
    exact nil_notMem_tokenize _ hm
  case refine_2 => exact fun w hw hp => by rw [ht, hp, unglue_gluedWord hw]
  case refine_3 => exact fun h => by rw [ht, unglue_eq_self h]
  case refine_4 => exact fun text hq h => ⟨clean_eq_flatten_tokenize h, clean_ne_nil hq h⟩

-- One word that is taken apart, and two words that are not. Capitals do not make any more.
theorem tokenize_words_login :
    let glued := "\u2003UserLogin\t"
    let apart := "USER\n logIn"
    let login := "login".toList
    login ∈ tokenize glued.toList ∧ isBlank 'i' = false ∧
      (tokenize glued.toList).flatten = "userlogin".toList ∧
      pieces isBlank (lowerChars (stripChars glued.toList)) = [gluedWord ++ login] ∧
      tokenize glued.toList = [gluedWord, login] ∧
      tokenize apart.toList = [gluedWord, login] ∧
      splitBetween (fun c d => isLowerLetter c && isUpperLetter d) login = [login] ∧
      ¬isBlankText apart ∧ hasTokens "User: login".toList (tokenize apart.toList) ∧
      clean (lowerChars apart.toList) ≠ [] := by
  intro glued apart login
  have hg : pieces isBlank (lowerChars (stripChars glued.toList)) = [gluedWord ++ login] := by
    decide +kernel
  have ha : pieces isBlank (lowerChars (stripChars apart.toList)) = [gluedWord, login] := by
    decide +kernel
  have hs : login ∈ splitRuns isBlank (lowerChars (stripChars apart.toList)) := by decide +kernel
  have hq : ¬isBlankText apart := by decide
  have ⟨hm, hf, hu, _⟩ := tokenize_words glued
  have ⟨_, _, _, hp, hc, hn⟩ := tokenize_words apart
  have hu := hu login (by decide) hg
  have hl : login ∈ tokenize glued.toList := hu ▸ by decide
  have hp := hp fun w _ he => by simp [ha] at he
  have ht : hasTokens "User: login".toList (tokenize apart.toList) := by decide +kernel
  exact ⟨hl, (hm login hl).right 'i' (by decide) |>.left, hf.trans (by decide +kernel), hg, hu,
    hp.trans ha, hc login hs, hq, ht, (hn "User: login" hq ht).right⟩

end StepCatalog.Search
