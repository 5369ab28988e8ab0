import Mathlib
import StepCatalog.Proofs.Search.Bands
import StepCatalog.Proofs.Search.Ranking
import StepCatalog.Proofs.Text.Lowering
import StepCatalog.Proofs.Text.Trimming

namespace StepCatalog.Search

open List Text

variable {definitions : List StepDefinition} {filter : Filter} {query q r : String}

/-! ### Tokens -/

theorem splitBetween_eq_singleton {s : List Char} (h : ∀ c d, d ∈ s → cut c d = false) :
    splitBetween cut s = [s] := by
  fun_induction splitBetween cut s
  case case1 => rfl
  case case2 => rfl
  case case3 c d s hc _ =>
    have := h c d <| mem_cons_of_mem c mem_cons_self
    simp [this] at hc
  case case4 c d s _ hi =>
    rw [hi fun c e he => h c e <| mem_cons_of_mem _ he]
    rfl

theorem not_isUpperLetter_of_mem_lowerChars (h : c ∈ lowerChars s) : isUpperLetter c = false := by
  have := not_capital_of_mem_lowerAfter h
  simpa [isUpperLetter] using this

-- No query has a place to be cut at but its blanks.
theorem splitBetween_of_mem_splitRuns (h : p ∈ splitRuns isBlank (lowerChars s)) :
    splitBetween (fun c d => isLowerLetter c && isUpperLetter d) p = [p] := by
  apply splitBetween_eq_singleton
  intro c d hd
  rw [not_isUpperLetter_of_mem_lowerChars (of_mem_splitRuns h hd).left, Bool.and_false]

-- The words of a query are lowercased one by one.
theorem tokenize_eq (query : List Char) :
    tokenize query = unglue ((pieces isBlank query).map lowerChars) := by
  have hp : pieces isBlank (lowerChars (stripChars query)) =
      (pieces isBlank query).map lowerChars := by
    rw [pieces_lowerChars, pieces_stripChars]
  have hu : ∀ p ∈ splitRuns isBlank (lowerChars (stripChars query)),
      splitBetween (fun c d => isLowerLetter c && isUpperLetter d) p = [p] :=
    fun _ => splitBetween_of_mem_splitRuns
  simp only [tokenize]
  generalize lowerChars (stripChars query) = trimmed at hp hu
  have hb : ∀ p ∈ splitRuns isBlank trimmed, (!p.all isBlank) = decide (p ≠ []) := by
    intro p hm
    cases p
    case nil => rfl
    case cons c p => simp [(of_mem_splitRuns hm mem_cons_self).right]
  split
  case isTrue hn =>
    rw [isEmpty_iff.mp hn] at hp
    rw [← hp]
    rfl
  case isFalse =>
    rw [flatMap_congr hu, flatMap_singleton', filter_congr hb, filter_splitRuns, hp]

theorem flatten_unglue (tokens : List (List Char)) : (unglue tokens).flatten = tokens.flatten := by
  simp only [unglue]
  split
  case h_1 t =>
    split
    case isFalse => rfl
    case isTrue h =>
      obtain ⟨rest, hr⟩ := isPrefixOf_iff_prefix.mp <| (Bool.and_eq_true ..).mp h |>.left
      simp [← hr]
  case h_2 => rfl

theorem isBlank_of_isWordChar (h : isWordChar c) : isBlank c = false := by
  simp only [isWordChar, isLowerLetter, Bool.or_eq_true, Bool.and_eq_true, decide_eq_true_eq] at h
  have hc : (0x61 ≤ c.toNat ∧ c.toNat ≤ 0x7a) ∨ (0x30 ≤ c.toNat ∧ c.toNat ≤ 0x39) := h
  rcases hc with ⟨h₁, h₂⟩ | ⟨h₁, h₂⟩ <;> exact Unicode.inRanges_of_uniformIn? rfl h₁ h₂

theorem flatten_tokenize (query : List Char) :
    (tokenize query).flatten = (lowerChars query).filter (!isBlank ·) := by
  rw [tokenize_eq, flatten_unglue, ← pieces_lowerChars, flatten_pieces]

-- The letters and digits of a query are those of its tokens.
theorem clean_flatten_tokenize (query : List Char) :
    clean (tokenize query).flatten = clean (lowerChars query) := by
  rw [flatten_tokenize, clean, filter_filter, clean]
  refine filter_congr ?_
  intro c _
  cases hc : isWordChar c
  case false => rfl
  case true => rw [isBlank_of_isWordChar hc]; rfl

/-! ### What matches -/

-- A text has the tokens, and their letters and digits stand in it close to each other.
def Answers (text : List Char) (tokens : List (List Char)) : Prop :=
  hasTokens text tokens ∧
    (clean tokens.flatten <:+: clean (lowerChars text) ∨
      ∃ gap ≤ (clean tokens.flatten).length,
        subsequenceGap (clean <| lowerChars text) (clean tokens.flatten) = some gap)

theorem scoreTokens_ne_none_iff {text : String} : scoreTokens text.toList query.toList ≠ none ↔
    IsClean query text ∨ ∃ gap ≤ (clean <| lowerChars query.toList).length,
      subsequenceGap (clean <| lowerChars text.toList) (clean <| lowerChars query.toList) =
        some gap := by
  simp only [scoreTokens]
  split
  case h_1 hi =>
    have hd : IsDirect query text := (Text.indexOf?_eq_some_iff.mp hi).isInfix
    simp [hd.isClean]
  case h_2 =>
    split
    case h_1 hi =>
      have hc : IsClean query text := (Text.indexOf?_eq_some_iff.mp hi).isInfix
      simp [hc]
    case h_2 hc =>
      have hc : ¬IsClean query text := Text.indexOf?_eq_none_iff.mp hc
      split
      case h_1 gap hg => simp [hc, hg]
      case h_2 hg => simp [hc, hg]

-- Past its tokens nothing of a query shows in what it matches, since a text that has the query as
-- it stands has its letters and digits as well.
theorem score_ne_none_iff (hq : ¬isBlankText query) (text : String) :
    score text query ≠ none ↔ Answers text.toList (tokenize query.toList) := by
  rw [Answers, clean_flatten_tokenize, score, if_neg hq, ← IsClean, ← scoreTokens_ne_none_iff]
  split <;> simp [*]

/-! ### Spellings -/

-- The words of a query in small letters, where those of A to Z are the only ones that have them.
def spelling (query : String) : List (List Char) :=
  (pieces isBlank query.toList).map (·.map Char.toLower)

-- Ways to type one query. Blanks separate words, however many they are and of whatever kind, the
-- case of a letter does not count, and one word may be typed apart where it begins with `user`.
inductive Respells (q r : String) : Prop
  | alike (spelled : spelling q = spelling r)
  | apart (more : w ≠ []) (glued : spelling q = [gluedWord ++ w])
      (cut : spelling r = [gluedWord, w])

theorem isBlankText_iff : isBlankText query ↔ spelling query = [] := by
  rw [spelling, map_eq_nil_iff, isBlankText, all_eq_true]
  constructor
  case mp => exact pieces_of_forall
  case mpr =>
    intro h c hc
    by_contra hb
    have hf : query.toList.filter (!isBlank ·) = [] := by rw [← flatten_pieces, h, flatten_nil]
    have := filter_eq_nil_iff.mp hf c hc
    simp [hb] at this

theorem tokenize_eq_spelling (query : String) :
    tokenize query.toList = unglue ((spelling query).map lowerChars) := by
  simp only [tokenize_eq, spelling, map_map, Function.comp_def, lowerChars_map_toLower]

theorem isWordChar_of_hasTokens {text : List Char} (h : hasTokens text tokens)
    (ht : t ∈ tokens) (hc : c ∈ t) : isWordChar c := by
  have ⟨w, hw, ho⟩ := any_eq_true.mp <| all_eq_true.mp h t ht
  have hm : c ∈ w := (occursIn_iff.mp ho).subset hc
  simpa using (of_mem_splitRuns hw hm).right

-- A sigma has another form at the end of a word, but neither form is in a word of any text.
theorem not_answers_of_sigma {text : List Char} (hs : '\u03a3' ∈ w)
    (ht : lowerAfter before w ∈ tokens) : ¬Answers text tokens := by
  intro ⟨h, _⟩
  rcases sigma_mem_lowerAfter hs before with hm | hm
  case inl => exact absurd (isWordChar_of_hasTokens h ht hm) (by decide)
  case inr => exact absurd (isWordChar_of_hasTokens h ht hm) (by decide)

theorem unglue_gluedWord (h : w ≠ []) : unglue [gluedWord ++ w] = [gluedWord, w] := by
  have hp : gluedWord.isPrefixOf (gluedWord ++ w) := by simp
  have hl : gluedWord.length < (gluedWord ++ w).length := by simpa using length_pos_iff.mpr h
  simp only [unglue, hp, hl, decide_true, Bool.and_self, if_true, drop_left]

theorem Respells.answers_iff (h : Respells q r) (text : List Char) :
    Answers text (tokenize q.toList) ↔ Answers text (tokenize r.toList) := by
  rw [tokenize_eq_spelling, tokenize_eq_spelling]
  cases h
  case alike h => rw [h]
  case apart w hw hq hr =>
    have hg : lowerChars gluedWord = gluedWord := by decide
    have hl : lowerChars (gluedWord ++ w) = gluedWord ++ lowerAfter gluedWord.reverse w := by
      have := lowerAfter_append_of_not_mem (s := gluedWord) (by decide) [] w
      rwa [append_nil, ← lowerChars, ← lowerChars, hg] at this
    have hn : lowerAfter gluedWord.reverse w ≠ [] := mt lowerAfter_eq_nil.mp hw
    have hu := unglue_gluedWord hn
    have hu' : unglue [gluedWord, lowerChars w] = [gluedWord, lowerChars w] := rfl
    simp only [hq, hr, map_cons, map_nil, hl, hu, hg, hu']
    by_cases hs : '\u03a3' ∈ w
    case neg => rw [lowerAfter_congr hs gluedWord.reverse [], lowerChars]
    case pos =>
      have hn (before : List Char) : ¬Answers text [gluedWord, lowerAfter before w] :=
        not_answers_of_sigma hs <| mem_cons_of_mem _ mem_cons_self
      exact iff_of_false (hn _) (hn _)

theorem Respells.isBlankText_iff (h : Respells q r) : isBlankText q ↔ isBlankText r := by
  rw [Search.isBlankText_iff, Search.isBlankText_iff]
  cases h
  case alike h     => rw [h]
  case apart hq hr => simp [hq, hr, gluedWord]

theorem Respells.score_ne_none_iff (h : Respells q r) (text : String) :
    score text q ≠ none ↔ score text r ≠ none := by
  by_cases hq : isBlankText q
  case pos => simp [score_of_blank hq, score_of_blank <| h.isBlankText_iff.mp hq]
  case neg =>
    have hr := mt h.isBlankText_iff.mpr hq
    rw [Search.score_ne_none_iff hq, Search.score_ne_none_iff hr, h.answers_iff]

/-! ### What is found -/

-- A search finds the definitions that match, and so the same ones whenever the same ones match.
theorem findSteps_perm (h : ∀ text, score text q ≠ none ↔ score text r ≠ none) :
    findSteps definitions filter q ~ findSteps definitions filter r := by
  have ha : answers definitions filter q = answers definitions filter r := by
    simp only [answers, h]
  rw [findSteps_eq_mergeSort, findSteps_eq_mergeSort, ha]
  exact ((mergeSort_perm ..).trans (mergeSort_perm ..).symm).map hit

-- Of a query that is not blank only the tokens decide what matches. No way to type it but one that
-- changes its words changes what a search finds, although the order may be another one.
theorem score_by_tokens (q r : String) :
    (¬isBlankText q → ¬isBlankText r → tokenize q.toList = tokenize r.toList →
      (∀ text, score text q = none ↔ score text r = none) ∧
      ∀ definitions filter, findSteps definitions filter q ~ findSteps definitions filter r) ∧
    (Respells q r →
      ∀ definitions filter, findSteps definitions filter q ~ findSteps definitions filter r) := by
  constructor
  case left =>
    intro hq hr ht
    have hs (text : String) : score text q ≠ none ↔ score text r ≠ none := by
      rw [score_ne_none_iff hq, score_ne_none_iff hr, ht]
    exact ⟨fun text => not_iff_not.mp <| hs text, fun _ _ => findSteps_perm hs⟩
  case right => exact fun h _ _ => findSteps_perm h.score_ne_none_iff

theorem score_by_tokens_user_login :
    let q := "USERLOGIN"
    let r := " user\u2003Login\n"
    let step (text : String) : StepDefinition :=
      ⟨⟨text, "", ⟨.empty, stepFlags, 0⟩, [text]⟩, "", 1, "", ""⟩
    let steps := [step "The login of a user", step "User: login", step "I log in"]
    ¬isBlankText q ∧ ¬isBlankText r ∧ tokenize q.toList = tokenize r.toList ∧ Respells q r ∧
      (score "User: login" q = none ↔ score "User: login" r = none) ∧
      findSteps steps {} q ~ findSteps steps {} r := by
  intro q r step steps
  have hq : ¬isBlankText q := by decide
  have hr : ¬isBlankText r := by decide
  have ht : tokenize q.toList = tokenize r.toList := by decide +kernel
  have hs : Respells q r :=
    .apart (w := "login".toList) (by decide) (by decide +kernel) (by decide +kernel)
  have hb := score_by_tokens q r
  exact ⟨hq, hr, ht, hs, (hb.left hq hr ht).left _, hb.right hs steps {}⟩

end StepCatalog.Search
