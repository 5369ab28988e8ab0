import Mathlib
import StepCatalog.Number.Binary64

namespace StepCatalog.Number

variable {num den : Nat}

theorem lt_two_pow_bitLength (n : Nat) : n < 2 ^ bitLength n := by
  rw [bitLength]
  split
  case isTrue h => simp [h]
  case isFalse => exact Nat.lt_log2_self

theorem two_pow_bitLength_le (h : 0 < n) : 2 ^ bitLength n ≤ 2 * n := by
  rw [bitLength, if_neg (Nat.ne_of_gt h), Nat.pow_succ']
  exact Nat.mul_le_mul_left 2 <| Nat.log2_self_le <| Nat.ne_of_gt h

theorem divRoundEven_le (num den : Nat) : divRoundEven num den ≤ num / den + 1 := by
  simp only [divRoundEven]
  split <;> omega

theorem mul_two_pow_lt (hd : 0 < den) (h : bitLength num + i ≤ bitLength den + j) :
    num * 2 ^ i < 2 * den * 2 ^ j := calc
  num * 2 ^ i
  _ < 2 ^ bitLength num * 2 ^ i :=
    Nat.mul_lt_mul_of_pos_right (lt_two_pow_bitLength num) (Nat.pow_pos Nat.two_pos)
  _ = 2 ^ (bitLength num + i) := (Nat.pow_add ..).symm
  _ ≤ 2 ^ (bitLength den + j) := Nat.pow_le_pow_right Nat.two_pos h
  _ = 2 ^ bitLength den * 2 ^ j := Nat.pow_add ..
  _ ≤ 2 * den * 2 ^ j := Nat.mul_le_mul_right _ (two_pow_bitLength_le hd)

-- A fraction has no more than 54 binary digits before the point where the unit is large enough.
theorem scaleBinary_div_lt (hd : 0 < den) (he : (bitLength num : Int) - bitLength den - 53 ≤ e) :
    (scaleBinary num den e).1 / (scaleBinary num den e).2 < 2 ^ 54 := by
  rw [scaleBinary]
  split
  case isTrue h =>
    have : num * 2 ^ 0 < 2 * den * 2 ^ (e.toNat + 53) := mul_two_pow_lt hd (by omega)
    refine Nat.div_lt_of_lt_mul ?_
    calc num
      _ = num * 2 ^ 0 := by simp
      _ < 2 * den * 2 ^ (e.toNat + 53) := this
      _ = den * Nat.pow 2 e.toNat * 2 ^ 54 := by rw [Nat.pow_eq, Nat.pow_add]; ring
  case isFalse h =>
    have : num * 2 ^ (-e).toNat < 2 * den * 2 ^ 53 := mul_two_pow_lt hd (by omega)
    refine Nat.div_lt_of_lt_mul ?_
    calc num * Nat.pow 2 (-e).toNat
      _ < 2 * den * 2 ^ 53 := this
      _ = den * 2 ^ 54 := by ring

namespace Binary64

theorem ofFraction_of_large (negative : Bool) (h : 1100 ≤ Nat.log2 n) :
    ofFraction negative n 1 = .infinite negative := by
  have hz : n ≠ 0 := by
    rintro rfl
    simp at h
  have he : maxExponent < roundingExponent n 1 := by
    have hb : bitLength n = Nat.log2 n + 1 := if_neg hz
    have ho : bitLength 1 = 1 := by decide
    simp only [roundingExponent, hb, ho, maxExponent]
    split <;> omega
  simp only [ofFraction, if_neg hz]
  split
  case isTrue => exact if_pos <| by omega
  case isFalse => rfl

-- The mantissa and the exponent of a finite number are in bounds.
def IsBounded : Binary64 → Prop
  | finite _ m e => m ≤ 2 ^ 54 ∧ e ≤ maxExponent
  | _ => True

theorem ofFraction_isBounded (negative : Bool) (num : Nat) (hd : 0 < den) :
    (ofFraction negative num den).IsBounded := by
  have hr : (bitLength num : Int) - bitLength den - 53 ≤ roundingExponent num den := by
    simp only [roundingExponent]
    split <;> omega
  have hm := divRoundEven_le (scaleBinary num den (roundingExponent num den)).1
    (scaleBinary num den (roundingExponent num den)).2
  have hl := scaleBinary_div_lt hd hr
  simp only [ofFraction]
  split
  case isTrue => exact ⟨Nat.zero_le _, by decide⟩
  case isFalse =>
    split
    case isTrue =>
      split
      case isTrue => trivial
      case isFalse he => exact ⟨Nat.pow_le_pow_right Nat.two_pos (by decide), by omega⟩
    case isFalse =>
      split
      case isTrue => trivial
      case isFalse he => exact ⟨by omega, by omega⟩

theorem ofDecimal_isBounded (negative : Bool) (digits count : Nat) (exponent : Int) :
    (ofDecimal negative digits count exponent).IsBounded := by
  simp only [ofDecimal]
  split_ifs
  case pos => exact ⟨Nat.zero_le _, by decide⟩
  case pos => trivial
  case pos => exact ofFraction_isBounded _ _ Nat.one_pos
  case neg => exact ofFraction_isBounded _ _ <| Nat.pow_pos (by decide)

theorem truncate?_natAbs_le {x : Binary64} (h : x.IsBounded) (ht : x.truncate? = some n) :
    n.natAbs ≤ 2 ^ (54 + maxExponent.toNat) := by
  cases x <;> simp only [truncate?, reduceCtorEq] at ht
  case finite negative m e =>
    have ⟨hm, he⟩ := h
    have hk : 54 + e.toNat ≤ 54 + maxExponent.toNat := by omega
    have hn : (if 0 ≤ e then m * Nat.pow 2 e.toNat else m / Nat.pow 2 (-e).toNat) ≤
        2 ^ (54 + maxExponent.toNat) := by
      split
      case isTrue =>
        refine (Nat.mul_le_mul_right _ hm).trans ?_
        rw [Nat.pow_eq, ← Nat.pow_add]
        exact Nat.pow_le_pow_right Nat.two_pos hk
      case isFalse =>
        exact (Nat.div_le_self ..).trans <| hm.trans <|
          Nat.pow_le_pow_right Nat.two_pos <| Nat.le_add_right ..
    generalize (if 0 ≤ e then m * Nat.pow 2 e.toNat else m / Nat.pow 2 (-e).toNat) = k at hn ht
    cases negative
    case false => simpa [← Option.some.inj ht] using hn
    case true => simpa [← Option.some.inj ht] using hn

end Binary64

end StepCatalog.Number
