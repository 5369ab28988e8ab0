import Mathlib
import StepCatalog.Proofs.Extract.Listing
import StepCatalog.Proofs.Text.Numerals

namespace StepCatalog.Extract

open Json

/-! ### Integers of values -/

theorem one_lt_pow_maxDigits : 1 < 10 ^ Text.maxDigits :=
  Nat.one_lt_pow (by decide) (by decide)

-- Even the largest float has fewer digits than the longest numeral.
theorem truncate?_natAbs_lt {x : Number.Binary64} (h : x.IsBounded) (ht : x.truncate? = some n) :
    n.natAbs < 10 ^ Text.maxDigits := by
  have hk : 54 + Number.Binary64.maxExponent.toNat < Text.maxDigits := by decide
  calc n.natAbs
    _ ≤ 2 ^ (54 + Number.Binary64.maxExponent.toNat) := Number.Binary64.truncate?_natAbs_le h ht
    _ ≤ 10 ^ (54 + Number.Binary64.maxExponent.toNat) := Nat.pow_le_pow_left (by decide) _
    _ < 10 ^ Text.maxDigits := Nat.pow_lt_pow_right (by decide) hk

-- Integers, floats and numerals that are read are all bounded, and so is the integer in each case.
theorem toInteger_natAbs_lt (hv : v.ReadBy d k) (h : toInteger v = .ok n) :
    n.natAbs < 10 ^ Text.maxDigits := by
  unfold toInteger at h
  split at h
  case h_3 | h_6 => contradiction
  case h_1 b =>
    cases h
    have := one_lt_pow_maxDigits
    cases b
    case false => exact Nat.zero_lt_of_lt this
    case true => exact this
  case h_2 =>
    cases h
    cases hv
    case scalar hs => cases hs with | int _ hl => exact hl
  case h_4 x _ =>
    cases hv
    case scalar hs =>
      cases hs with | float hb _ =>
      cases ht : x.truncate? <;> rw [ht] at h <;> cases h
      exact truncate?_natAbs_lt hb ht
  case h_5 s =>
    split at h <;> cases h
    case h_1 hr => exact Text.readInteger_natAbs_lt hr

theorem lineOf_natAbs_lt (hv : ∀ u ∈ v, u.ReadBy d k) (h : lineOf v = .ok n) :
    n.natAbs < 10 ^ Text.maxDigits := by
  unfold lineOf at h
  split at h
  case h_2 => contradiction
  case h_3 => cases h; exact one_lt_pow_maxDigits
  case h_1 m hm =>
    have hr : (v.getD .null).ReadBy d k := by
      cases v
      case none => exact .scalar .null
      case some u => exact hv u rfl
    cases h
    split
    case isTrue => exact toInteger_natAbs_lt hr hm
    case isFalse => exact one_lt_pow_maxDigits

/-! ### Lines of definitions -/

-- The line of a definition is at least 1, and of as many digits at the most as are converted.
def HasBoundedLine (s : DefinitionSite) : Prop :=
  1 ≤ s.line ∧ s.line.natAbs < 10 ^ Text.maxDigits

theorem site?_hasBoundedLine [Runtime] (hm : (Json.object members).ReadBy d k)
    (h : site? members = .ok (some s)) : HasBoundedLine s := by
  have hv (key : String) : ∀ u ∈ members.lookup key, u.ReadBy d (k + 1) := by
    intro u hu
    have ⟨before, after, he, _⟩ := List.lookup_eq_some_iff.mp hu
    cases hm
    case scalar h => contradiction
    case object h => exact h (key, u) (by simp [he])
  obtain ⟨_, _, _, _, hl⟩ := of_site?_eq_some h
  exact ⟨one_le_of_lineOf hl, lineOf_natAbs_lt (hv "line") hl⟩

theorem definitions_haveBoundedLines [Runtime] (h : definitions d t p = .ok sites) :
    ∀ s ∈ sites, HasBoundedLine s := by
  obtain ⟨records, found, hr, hf, rfl⟩ := definitions_eq_ok_iff.mp h
  obtain ⟨bytes, hb⟩ := exists_read_of_loadLines hr
  intro s hs
  obtain ⟨_, hs, rfl⟩ := List.mem_filterMap.mp hs
  obtain ⟨members, hm, hs⟩ := exists_of_mem_mapM hf hs
  obtain ⟨l, hl⟩ := decode_of_mem_loadLines hb hr hm
  exact site?_hasBoundedLine (decode_readBy hl) hs

end StepCatalog.Extract
