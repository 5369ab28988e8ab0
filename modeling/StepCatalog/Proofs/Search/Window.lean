import Mathlib
import StepCatalog.Proofs.Search.Bands

namespace StepCatalog.Search

open List Text

variable {query text : List Char} {q c : Char}

/-! ### Places of letters -/

-- Ascending places at which the letters of a query stand in a text.
structure Embeds (query text : List Char) (places : List Nat) : Prop where
  ascending : places.Pairwise (· < ·)
  letters   : places.map (text[·]?) = query.map some

namespace Embeds

variable {places : List Nat}

theorem sublist_drop (h : Embeds query text places) (hk : ∀ p ∈ places, k ≤ p) :
    query <+ text.drop k := by
  induction places generalizing query k <;> cases query
  case cons.cons p places hi q query =>
    have ⟨hp, hs⟩ := pairwise_cons.mp h.ascending
    have ⟨hq, hl⟩ := cons.inj h.letters
    have ⟨ht, hq⟩ := List.getElem?_eq_some_iff.mp hq
    have hd : q :: text.drop (p + 1) = text.drop p := hq ▸ (drop_eq_getElem_cons ht).symm
    have hr : q :: query <+ text.drop p := hd ▸ (hi ⟨hs, hl⟩ hp).cons_cons q
    exact hr.trans <| drop_sublist_drop_left text <| hk p mem_cons_self
  case nil.cons => exact absurd h.letters nofun
  all_goals exact nil_sublist _

theorem take (h : Embeds query text places) (hp : ∀ p ∈ places, p ≤ e) :
    Embeds query (text.take (e + 1)) places where
  ascending := h.ascending
  letters   := by
    rw [← h.letters]
    refine map_congr_left ?_
    intro p hm
    exact getElem?_take_of_lt <| Nat.lt_succ_of_le <| hp p hm

theorem of_take (h : Embeds query (text.take k) places) :
    Embeds query text places ∧ ∀ p ∈ places, p < k := by
  have hp : ∀ p ∈ places, p < k := by
    intro p hp
    have hm : (text.take k)[p]? ∈ query.map some := h.letters ▸ mem_map_of_mem hp
    have ⟨_, _, hq⟩ := mem_map.mp hm
    have ⟨hl, _⟩ := List.getElem?_eq_some_iff.mp hq.symm
    exact lt_of_lt_of_le hl <| length_take_le ..
  refine ⟨⟨h.ascending, ?_⟩, hp⟩
  rw [← h.letters]
  exact map_congr_left fun p hm => (getElem?_take_of_lt <| hp p hm).symm

theorem le_of_head? (h : Embeds query text places) (hf : places.head? = some first) :
    ∀ p ∈ places, first ≤ p := by
  obtain ⟨places, rfl⟩ := head?_eq_some_iff.mp hf
  have ha := (pairwise_cons.mp h.ascending).1
  exact forall_mem_cons.mpr ⟨le_rfl, fun p hp => le_of_lt <| ha p hp⟩

theorem le_of_getLast? (h : Embeds query text places) (he : places.getLast? = some e) :
    ∀ p ∈ places, p ≤ e := by
  have ⟨front, hf⟩ := getLast?_eq_some_iff.mp he
  have hs := hf ▸ h.ascending
  intro p hp
  rcases mem_append.mp (hf ▸ hp) with hp | hp
  case inl => exact le_of_lt <| pairwise_append.mp hs |>.2.2 p hp e mem_cons_self
  case inr => exact le_of_eq <| mem_singleton.mp hp

theorem sublist_take (h : Embeds query text places) (he : places.getLast? = some e) :
    query <+ text.take (e + 1) :=
  (h.take <| h.le_of_getLast? he).sublist_drop (k := 0) fun _ _ => Nat.zero_le _

-- The first letter can be taken from an earlier place.
theorem move_first (h : Embeds (q :: query) text (p :: places)) (hq : text[first]? = some q)
    (hp : first ≤ p) : Embeds (q :: query) text (first :: places) where
  ascending := by
    have ⟨ha, hs⟩ := pairwise_cons.mp h.ascending
    exact pairwise_cons.mpr ⟨fun k hk => hp.trans_lt <| ha k hk, hs⟩
  letters   := by
    have hl := (cons.inj h.letters).2
    simp only [map_cons, hq, hl]

end Embeds

theorem exists_embeds (h : query <+ text) : ∃ places, Embeds query text places := by
  have ⟨places, hq, hs⟩ := sublist_eq_map_getElem h
  refine ⟨places.map Fin.val, pairwise_map.mpr hs, ?_⟩
  simp [hq]

/-! ### The greedy scan -/

-- The least number of characters at the front of a text that hold a query in order.
def Takes (query text : List Char) (n : Nat) : Prop := IsLeast {n | query <+ text.take n} n

theorem takes_nil_iff : Takes [] text n ↔ n = 0 := by
  constructor
  case mp  => exact fun h => Nat.le_zero.mp <| h.2 <| nil_sublist _
  case mpr => rintro rfl; exact ⟨nil_sublist _, fun _ _ => Nat.zero_le _⟩

-- What comes first is taken whenever it can be, since all that could follow it elsewhere follows
-- it here.
theorem sublist_take_cons_iff : q :: query <+ (c :: text).take (n + 1) ↔
    (if c = q then query else q :: query) <+ text.take n := by
  rw [take_succ_cons]
  split
  case isTrue h  => rw [h, cons_sublist_cons]
  case isFalse h => exact ⟨Sublist.of_cons_of_ne <| Ne.symm h, Sublist.cons c⟩

theorem isLeast_succ_iff {p : Nat → Prop} (hz : ¬p 0) :
    IsLeast {n | p n} n ↔ ∃ m, IsLeast {m | p (m + 1)} m ∧ n = m + 1 := by
  constructor
  case mp =>
    intro ⟨h, hl⟩
    cases n
    case zero   => exact absurd h hz
    case succ m => exact ⟨m, ⟨h, fun k hk => Nat.le_of_succ_le_succ <| hl hk⟩, rfl⟩
  case mpr =>
    rintro ⟨m, ⟨h, hl⟩, rfl⟩
    refine ⟨h, ?_⟩
    intro k hk
    cases k
    case zero   => exact absurd hk hz
    case succ k => exact Nat.succ_le_succ <| hl hk

theorem takes_succ_iff (hq : query ≠ []) : Takes query text n ↔
    ∃ last, IsLeast {e | query <+ text.take (e + 1)} last ∧ n = last + 1 :=
  isLeast_succ_iff <| by simpa using hq

theorem takes_cons_iff : Takes (q :: query) (c :: text) n ↔
    ∃ m, Takes (if c = q then query else q :: query) text m ∧ n = m + 1 := by
  simp only [takes_succ_iff <| cons_ne_nil q query, sublist_take_cons_iff]
  rfl

theorem windowFrom_eq_some_iff :
    windowFrom k query text = some n ↔ ∃ m, Takes query text m ∧ n = k + m := by
  fun_induction windowFrom k query text
  case case1 k text => simp [takes_nil_iff, eq_comm]
  case case2 k q query =>
    have hn (m : Nat) : ¬Takes (q :: query) [] m := fun h => by simpa using h.1
    simp [hn]
  case case3 k q query c text hi =>
    simp only [hi, takes_cons_iff]
    constructor
    case mp => exact fun ⟨m, hm, hn⟩ => ⟨_, ⟨m, hm, rfl⟩, by omega⟩
    case mpr => exact fun ⟨_, ⟨m, hm, he⟩, hn⟩ => ⟨m, hm, by omega⟩

theorem window?_cons_eq_some_iff : window? (q :: query) text = some n ↔
    ∃ first m, FirstAt [q] text first ∧ Takes (q :: query) text m ∧ n + first = m := by
  induction text generalizing n
  case nil =>
    have hn (m : Nat) : ¬Takes (q :: query) [] m := fun h => by simpa using h.1
    simp [window?, hn]
  case cons c text hi =>
    simp only [window?, takes_cons_iff]
    by_cases hc : c = q
    case pos =>
      have hf : FirstAt [q] (c :: text) 0 := FirstAt.zero_iff.mpr <| by simp [hc]
      simp only [if_pos hc, windowFrom_eq_some_iff]
      constructor
      case mp => exact fun ⟨m, hm, hn⟩ => ⟨0, _, hf, ⟨m, hm, rfl⟩, by omega⟩
      case mpr =>
        intro ⟨first, _, hf', ⟨m, hm, he⟩, hn⟩
        obtain rfl := hf'.unique hf
        exact ⟨m, hm, by omega⟩
    case neg =>
      have hf : ¬[q] <+: c :: text := fun h => hc (cons_prefix_cons.mp h).1.symm
      simp only [if_neg hc, hi]
      constructor
      case mp =>
        intro ⟨first, m, hf', hm, hn⟩
        exact ⟨first + 1, _, FirstAt.succ_iff.mpr ⟨hf, hf'⟩, ⟨m, hm, rfl⟩, by omega⟩
      case mpr =>
        intro ⟨first, _, hf', ⟨m, hm, he⟩, hn⟩
        cases first
        case zero => exact absurd (FirstAt.zero_iff.mp hf') hf
        case succ first =>
          exact ⟨first, m, FirstAt.succ_iff.mp hf' |>.2, hm, by omega⟩

/-! ### The window -/

-- The part of a text that is scanned for a query: from the first place of its first letter to the
-- first place up to which all of its letters stand in order.
structure IsWindow (query text : List Char) (first last : Nat) : Prop where
  nonempty : query ≠ []
  opens    : FirstAt [query.head nonempty] text first
  closes   : IsLeast {e | query <+ text.take (e + 1)} last

theorem singleton_prefix_drop_iff : [q] <+: text.drop p ↔ text[p]? = some q := by
  rw [singleton_prefix_iff_head?_eq_some, head?_drop]

namespace IsWindow

variable {places : List Nat}

theorem last_le (h : IsWindow query text first last) (hp : Embeds query text places)
    (he : places.getLast? = some e) : last ≤ e :=
  h.closes.2 <| hp.sublist_take he

-- Wherever the letters stand that end the soonest, the first of them can as well be the first that
-- there is.
theorem exists_embeds (h : IsWindow query text first last) : ∃ places,
    Embeds query text places ∧ places.head? = some first ∧ places.getLast? = some last := by
  have ⟨places, ht⟩ := Search.exists_embeds h.closes.1
  have ⟨hp, hl⟩ := ht.of_take
  obtain ⟨q, query, rfl⟩ := exists_cons_of_ne_nil h.nonempty
  cases places
  case nil => exact absurd hp.letters nofun
  case cons p places =>
    have hq := (cons.inj hp.letters).1
    have hle : first ≤ p := by
      by_contra hlt
      exact h.opens.first p (Nat.lt_of_not_le hlt) <| singleton_prefix_drop_iff.mpr hq
    have hp' := hp.move_first (singleton_prefix_drop_iff.mp h.opens.here) hle
    have ⟨e, he⟩ := Option.isSome_iff_exists.mp <| getLast?_isSome.mpr <| cons_ne_nil first places
    have hel : e ≤ last := by
      have hm : e ∈ first :: places := mem_of_getLast? he
      rcases mem_cons.mp hm with rfl | hm
      case inl => exact hle.trans <| Nat.le_of_lt_succ <| hl p mem_cons_self
      case inr => exact Nat.le_of_lt_succ <| hl e <| mem_cons_of_mem p hm
    exact ⟨_, hp', rfl, hel.antisymm (h.last_le hp' he) ▸ he⟩

theorem sublist (h : IsWindow query text first last) :
    query <+ (text.take (last + 1)).drop first := by
  have ⟨places, hp, hf, hl⟩ := h.exists_embeds
  exact (hp.take <| hp.le_of_getLast? hl).sublist_drop <| hp.le_of_head? hf

theorem length_le (h : IsWindow query text first last) :
    first + query.length ≤ last + 1 := by
  have hl := h.sublist.length_le
  have hq := length_pos_iff.mpr h.nonempty
  have ht : (text.take (last + 1)).length ≤ last + 1 := length_take_le ..
  rw [length_drop] at hl
  omega

theorem length_lt (h : IsWindow query text first last) (hn : ¬query <:+: text) :
    first + query.length < last + 1 := by
  by_contra hl
  have ht : (text.take (last + 1)).length ≤ last + 1 := length_take_le ..
  have he := h.sublist.eq_of_length_le <| by rw [length_drop]; omega
  exact hn <| he ▸ (drop_suffix ..).isInfix.trans (IsPrefix.isInfix <| take_prefix ..)

end IsWindow

theorem exists_isWindow (hq : query ≠ []) (h : query <+ text) :
    ∃ first last, IsWindow query text first last := by
  have hs : [query.head hq] <:+: text :=
    (singleton_infix_iff ..).mpr <| h.subset <| head_mem hq
  have ⟨first, hf⟩ := exists_firstAt hs
  have he : ∃ e, query <+ text.take (e + 1) :=
    ⟨text.length, by rwa [take_of_length_le <| Nat.le_succ _]⟩
  exact ⟨first, _, hq, hf, Nat.isLeast_find he⟩

theorem window?_eq_some_iff : window? query text = some n ↔
    ∃ first last, IsWindow query text first last ∧ n + first = last + 1 := by
  cases query
  case nil =>
    have hn (first last : Nat) : ¬IsWindow [] text first last := fun h => h.nonempty rfl
    cases text <;> simp [window?, hn]
  case cons q query =>
    simp only [window?_cons_eq_some_iff, takes_succ_iff <| cons_ne_nil q query]
    constructor
    case mp => exact fun ⟨first, _, hf, ⟨last, hl, he⟩, hn⟩ =>
      ⟨first, last, ⟨cons_ne_nil _ _, hf, hl⟩, hn.trans he⟩
    case mpr => exact fun ⟨first, last, h, hn⟩ =>
      ⟨first, _, h.opens, ⟨last, h.closes, rfl⟩, hn⟩

theorem subsequenceGap_eq_some_iff : subsequenceGap text query = some gap ↔
    ∃ first last, IsWindow query text first last ∧ first + query.length + gap = last + 1 := by
  simp only [subsequenceGap, Option.map_eq_some_iff, window?_eq_some_iff]
  constructor
  case mp =>
    rintro ⟨n, ⟨first, last, h, hn⟩, rfl⟩
    have := h.length_le
    exact ⟨first, last, h, by omega⟩
  case mpr =>
    intro ⟨first, last, h, hn⟩
    exact ⟨query.length + gap, ⟨first, last, h, by omega⟩, by omega⟩

theorem subsequenceGap_eq_none_iff (hq : query ≠ []) :
    subsequenceGap text query = none ↔ ¬query <+ text := by
  rw [← not_iff_not, not_not, ← ne_eq, Option.ne_none_iff_exists']
  simp only [subsequenceGap_eq_some_iff]
  constructor
  case mp => exact fun ⟨_, _, _, h, _⟩ => h.closes.1.trans <| take_sublist ..
  case mpr =>
    intro h
    have ⟨first, last, hw⟩ := exists_isWindow hq h
    have := hw.length_le
    exact ⟨last + 1 - (first + query.length), first, last, hw, by omega⟩

theorem subsequenceGap_isLeast (h : IsWindow query text first last)
    (hg : first + query.length + gap = last + 1) :
    IsLeast {n : Int | ∃ places e, Embeds query text places ∧ places.head? = some first ∧
      places.getLast? = some e ∧ n = e - first + 1 - query.length} gap := by
  constructor
  case left =>
    have ⟨places, hp, hf, hl⟩ := h.exists_embeds
    exact ⟨places, last, hp, hf, hl, by omega⟩
  case right =>
    rintro n ⟨places, e, hp, _, he, rfl⟩
    have := h.last_le hp he
    omega

theorem score_of_scattered {query text : String} (hq : ¬isBlankText query)
    (hc : ¬IsClean query text) (h : score text query = some n) :
    100 - ((clean <| lowerChars query.toList).length : Int) ≤ n ∧ n ≤ 99 := by
  have ⟨band, i, hl, hn⟩ := exists_lands_of_score hq h
  cases hl
  case direct h      => exact absurd (IsDirect.isClean h.isInfix) hc
  case clean h       => exact absurd h.isInfix hc
  case scattered _ hg hi =>
    have ⟨_, _, hw, hs⟩ := subsequenceGap_eq_some_iff.mp hg
    have := hw.length_lt hc
    simp only [Band.base, subsequenceBase] at hn
    omega

-- The scan finds a query in a text whenever its letters stand there in order. It takes the first
-- place of the first letter for the start, and from there on no way of placing the others ends
-- sooner. If the letters stood together the hit would be a clean one, so what is left costs a point
-- at least, and it costs no more than a point for each letter.
theorem subsequenceGap_narrowest :
    (∀ (text query : List Char) (hq : query ≠ []),
      (subsequenceGap text query = none ↔ ¬query <+ text) ∧
      ∀ gap, subsequenceGap text query = some gap → ∃ first last,
        FirstAt [query.head hq] text first ∧ IsLeast {e | query <+ text.take (e + 1)} last ∧
        (gap : Int) = last - first + 1 - query.length ∧
        IsLeast {n : Int | ∃ places e, Embeds query text places ∧ places.head? = some first ∧
          places.getLast? = some e ∧ n = e - first + 1 - query.length} gap) ∧
    ∀ query text : String, ¬isBlankText query → ¬IsDirect query text → ¬IsClean query text →
      ∀ n, score text query = some n →
        100 - ((clean <| lowerChars query.toList).length : Int) ≤ n ∧ n ≤ 99 := by
  constructor
  case left =>
    intro text query hq
    refine ⟨subsequenceGap_eq_none_iff hq, ?_⟩
    intro gap h
    have ⟨first, last, hw, hg⟩ := subsequenceGap_eq_some_iff.mp h
    exact ⟨first, last, hw.opens, hw.closes, by omega, subsequenceGap_isLeast hw hg⟩
  case right => exact fun _ _ hq _ hc _ h => score_of_scattered hq hc h

theorem subsequenceGap_narrowest_pay :
    let query := "pay".toList
    let text := "a spa play".toList
    (∃ hq : query ≠ [], subsequenceGap text query = some 4 ∧ ∃ first last,
      FirstAt [query.head hq] text first ∧ IsLeast {e | query <+ text.take (e + 1)} last ∧
      ((4 : Nat) : Int) = last - first + 1 - query.length) ∧
    ¬isBlankText "pay now" ∧ ¬IsDirect "pay now" "Pay it now" ∧ ¬IsClean "pay now" "Pay it now" ∧
      score "Pay it now" "pay now" = some 98 ∧
      100 - ((clean <| lowerChars "pay now".toList).length : Int) ≤ 98 ∧ (98 : Int) ≤ 99 := by
  intro query text
  have hq : query ≠ [] := by decide
  have hg : subsequenceGap text query = some 4 := by decide
  have ⟨hl, hs⟩ := subsequenceGap_narrowest
  have ⟨first, last, hf, he, hi, _⟩ := (hl text query hq).2 4 hg
  have hd : ¬IsDirect "pay now" "Pay it now" ∧ ¬IsClean "pay now" "Pay it now" := by
    decide +kernel
  have hn : score "Pay it now" "pay now" = some 98 := by decide +kernel
  exact ⟨⟨hq, hg, first, last, hf, he, hi⟩, by decide, hd.1, hd.2, hn,
    hs _ _ (by decide) hd.1 hd.2 98 hn⟩

end StepCatalog.Search
