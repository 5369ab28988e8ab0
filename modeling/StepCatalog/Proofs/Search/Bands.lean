import Mathlib
import StepCatalog.Proofs.Text.Occurrence
import StepCatalog.Search.Score

namespace StepCatalog.Search

open Text (FirstAt lowerChars)

variable {query text : String}

-- The ways in which a text can answer a query. Each has scores below a base of its own.
inductive Band
  | direct
  | clean
  | scattered
  deriving DecidableEq

def Band.base : Band → Int
  | direct    => exactBase
  | clean     => cleanBase
  | scattered => subsequenceBase

def IsDirect (query text : String) : Prop :=
  lowerChars query.toList <:+: lowerChars text.toList

-- The query stands in the text once only letters and digits are left of both.
def IsClean (query text : String) : Prop :=
  clean (lowerChars query.toList) <:+: clean (lowerChars text.toList)

instance : Decidable (IsDirect query text) :=
  decidable_of_iff _ Text.occursIn_iff

instance : Decidable (IsClean query text) :=
  decidable_of_iff _ Text.occursIn_iff

theorem IsDirect.isClean (h : IsDirect query text) : IsClean query text :=
  h.filter isWordChar

-- The strictest way in which a text answers a query, and what that takes off the base: the place of
-- the first hit or, where the letters are scattered, the number of characters between them.
inductive Lands (query text : String) : Band → Nat → Prop
  | direct (first : FirstAt (lowerChars query.toList) (lowerChars text.toList) i) :
    Lands query text .direct i
  | clean (indirect : ¬IsDirect query text)
    (first : FirstAt (clean <| lowerChars query.toList) (clean <| lowerChars text.toList) i) :
    Lands query text .clean i
  | scattered (unclean : ¬IsClean query text)
    (gap : subsequenceGap (clean <| lowerChars text.toList) (clean <| lowerChars query.toList) =
      some i)
    (narrow : i ≤ (clean <| lowerChars query.toList).length) :
    Lands query text .scattered i

namespace Lands

theorem isDirect_iff (h : Lands query text band i) : IsDirect query text ↔ band = .direct := by
  cases h
  case direct h        => simp [IsDirect, h.isInfix]
  case clean h _       => simp [h]
  case scattered h _ _ => simp [mt IsDirect.isClean h]

theorem isClean_iff (h : Lands query text band i) : IsClean query text ↔ band ≠ .scattered := by
  cases h
  case direct h        => simp [IsDirect.isClean h.isInfix]
  case clean _ h       => simp [IsClean, h.isInfix]
  case scattered h _ _ => simp [h]

theorem unique (h₁ : Lands query text u i) (h₂ : Lands query text v j) : u = v ∧ i = j := by
  have hd := h₁.isDirect_iff.symm.trans h₂.isDirect_iff
  have hc := h₁.isClean_iff.symm.trans h₂.isClean_iff
  cases h₁ <;> cases h₂ <;> simp at hd hc
  case direct.direct h₁ h₂ => exact ⟨rfl, h₁.unique h₂⟩
  case clean.clean h₁ _ h₂ => exact ⟨rfl, h₁.unique h₂⟩
  case scattered.scattered h₁ _ _ h₂ _ => exact ⟨rfl, Option.some.inj <| h₁.symm.trans h₂⟩

end Lands

theorem exists_lands_of_scoreTokens (h : scoreTokens text.toList query.toList = some n) :
    ∃ band i, Lands query text band i ∧ n = band.base - i := by
  simp only [scoreTokens] at h
  split at h
  case h_1 i hi =>
    have hf := Text.indexOf?_eq_some_iff.mp hi
    exact ⟨_, i, .direct hf, Option.some.inj h.symm⟩
  case h_2 hd =>
    have hd := Text.indexOf?_eq_none_iff.mp hd
    split at h
    case h_1 i hi =>
      have hf := Text.indexOf?_eq_some_iff.mp hi
      exact ⟨_, i, .clean hd hf, Option.some.inj h.symm⟩
    case h_2 hc =>
      have hc := Text.indexOf?_eq_none_iff.mp hc
      split at h
      case h_2 => contradiction
      case h_1 gap hg =>
        split at h
        case isFalse => contradiction
        case isTrue hn => exact ⟨_, gap, .scattered hc hg hn, Option.some.inj h.symm⟩

theorem exists_lands_of_score (hq : ¬Text.isBlankText query) (h : score text query = some n) :
    ∃ band i, Lands query text band i ∧ n = band.base - i := by
  rw [score, if_neg hq] at h
  split at h
  case isTrue  => exact exists_lands_of_scoreTokens h
  case isFalse => contradiction

-- A hit in a better band has the better score just if it does not lie too far on: the distance of
-- the bands is all that it can make up for.
theorem outscores_iff (hq : ¬Text.isBlankText query) (hm : score a query = some m)
    (hn : score b query = some n) :
    (IsDirect query a → ¬IsDirect query b → ∃ i v j,
      Lands query a .direct i ∧ Lands query b v j ∧ v ≠ .direct ∧
        (n < m ↔ i < exactBase - v.base + j)) ∧
    (IsClean query a → ¬IsDirect query b → ¬IsClean query b → ∃ u i j,
      Lands query a u i ∧ Lands query b .scattered j ∧ u ≠ .scattered ∧
        (n < m ↔ i < u.base - subsequenceBase + j)) := by
  have ⟨u, i, ha, hm⟩ := exists_lands_of_score hq hm
  have ⟨v, j, hb, hn⟩ := exists_lands_of_score hq hn
  have hl : n < m ↔ (i : Int) < u.base - v.base + j := by omega
  rw [ha.isDirect_iff, ha.isClean_iff, hb.isDirect_iff, hb.isClean_iff]
  constructor
  case left =>
    rintro rfl hv
    exact ⟨i, v, j, ha, hb, hv, hl⟩
  case right =>
    intro hu _ hv
    cases not_not.mp hv
    exact ⟨u, i, j, ha, hb, hu, hl⟩

theorem outscores_log_in :
    let a := "User: I log in"
    let b := "Log-in again"
    ¬Text.isBlankText "log in" ∧ score a "log in" = some 292 ∧ score b "log in" = some 200 ∧
      IsDirect "log in" a ∧ ¬IsDirect "log in" b ∧
      ∃ i v j, Lands "log in" a .direct i ∧ Lands "log in" b v j ∧ v ≠ .direct ∧
        ((200 : Int) < 292 ↔ i < exactBase - v.base + j) := by
  intro a b
  have hm : score a "log in" = some 292 := by decide +kernel
  have hn : score b "log in" = some 200 := by decide +kernel
  have hd : IsDirect "log in" a ∧ ¬IsDirect "log in" b := by decide +kernel
  exact ⟨by decide, hm, hn, hd.1, hd.2, (outscores_iff (by decide) hm hn).1 hd.1 hd.2⟩

-- Beyond a hundred places a direct hit falls behind a clean one, and so does a clean hit behind
-- scattered letters.
theorem not_forall_outscores :
    (¬∀ query a b m n, ¬Text.isBlankText query → score a query = some m →
      score b query = some n → IsDirect query a → ¬IsDirect query b → n < m) ∧
    ¬∀ query a b m n, ¬Text.isBlankText query → score a query = some m →
      score b query = some n → IsClean query a → ¬IsDirect query b → ¬IsClean query b →
      n < m := by
  constructor
  case left =>
    let a := "The customer opens the list of all orders of the year that are not yet paid, " ++
      "picks the first one and can pay now"
    intro h
    have hs : score a "pay now" = some 195 ∧ score "Pay-now" "pay now" = some 200 := by
      decide +kernel
    have hd : IsDirect "pay now" a ∧ ¬IsDirect "pay now" "Pay-now" := by decide +kernel
    have := h "pay now" a "Pay-now" 195 200 (by decide) hs.1 hs.2 hd.1 hd.2
    contradiction
  case right =>
    let a := "The customer who has signed in opens the list of all orders of the year that are " ++
      "not yet paid in full, picks the very first one and can pay-now"
    intro h
    have hs : score a "pay now" = some 94 ∧ score "Pay it now" "pay now" = some 98 := by
      decide +kernel
    have hc : IsClean "pay now" a ∧ ¬IsClean "pay now" "Pay it now" := by decide +kernel
    have := h "pay now" a "Pay it now" 94 98 (by decide) hs.1 hs.2 hc.1
      (mt IsDirect.isClean hc.2) hc.2
    contradiction

end StepCatalog.Search
