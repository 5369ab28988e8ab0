import Mathlib
import StepCatalog.Text.Split

namespace StepCatalog.Text

open List

variable {needle text : List Char}

-- A text stands at a place inside another one, and at no place before it.
structure FirstAt (needle text : List Char) (i : Nat) : Prop where
  here  : needle <+: text.drop i
  first : ∀ j < i, ¬needle <+: text.drop j

namespace FirstAt

theorem zero_iff : FirstAt needle text 0 ↔ needle <+: text :=
  ⟨(·.here), fun h => ⟨h, fun _ h => absurd h <| Nat.not_lt_zero _⟩⟩

theorem succ_iff :
    FirstAt needle (c :: text) (i + 1) ↔ ¬needle <+: c :: text ∧ FirstAt needle text i := by
  constructor
  case mp =>
    intro h
    refine ⟨h.first 0 <| Nat.succ_pos i, h.here, ?_⟩
    intro j hj
    exact h.first (j + 1) <| Nat.succ_lt_succ hj
  case mpr =>
    intro ⟨hn, h⟩
    refine ⟨h.here, ?_⟩
    intro j hj
    cases j
    case zero => exact hn
    case succ j => exact h.first j <| Nat.lt_of_succ_lt_succ hj

theorem unique (h₁ : FirstAt needle text i) (h₂ : FirstAt needle text j) : i = j := by
  have h₁₂ := mt (h₁.first j) <| not_not.mpr h₂.here
  have h₂₁ := mt (h₂.first i) <| not_not.mpr h₁.here
  omega

theorem isInfix (h : FirstAt needle text i) : needle <:+: text :=
  h.here.isInfix.trans <| drop_suffix i text |>.isInfix

end FirstAt

theorem indexOf?_eq_some_iff : indexOf? needle text = some i ↔ FirstAt needle text i := by
  induction text generalizing i <;> simp only [indexOf?]
  case nil =>
    cases i
    case zero => simp [FirstAt.zero_iff]
    case succ i =>
      -- Past the end nothing stands but the empty text, which stands at the start already.
      have hn : ¬FirstAt needle [] (i + 1) := fun h =>
        h.first 0 (Nat.succ_pos i) <| by simpa using h.here
      simp [hn]
  case cons c text hi =>
    split
    case isTrue h =>
      replace h := isPrefixOf_iff_prefix.mp h
      cases i
      case zero => simp [FirstAt.zero_iff, h]
      case succ => simp [FirstAt.succ_iff, h]
    case isFalse h =>
      replace h := mt isPrefixOf_iff_prefix.mpr h
      cases i
      case zero => simp [FirstAt.zero_iff, h]
      case succ => simp [FirstAt.succ_iff, h, hi]

theorem occursIn_iff : occursIn needle text ↔ needle <:+: text := by
  simp only [occursIn]
  induction text <;> simp only [indexOf?]
  case nil => cases needle <;> simp
  case cons c text hi =>
    rw [infix_cons_iff, ← hi, ← isPrefixOf_iff_prefix]
    split <;> simp_all

theorem indexOf?_eq_none_iff : indexOf? needle text = none ↔ ¬needle <:+: text := by
  simp [← occursIn_iff, occursIn]

theorem exists_firstAt (h : needle <:+: text) : ∃ i, FirstAt needle text i := by
  have ⟨i, hi⟩ := Option.ne_none_iff_exists'.mp <| mt indexOf?_eq_none_iff.mp <| not_not.mpr h
  exact ⟨i, indexOf?_eq_some_iff.mp hi⟩

end StepCatalog.Text
