import Mathlib
import StepCatalog.Json.Token
import StepCatalog.Proofs.Number.Rounding

namespace StepCatalog

theorem isDigit_iff {c : Char} : c.isDigit ↔ '0'.toNat ≤ c.toNat ∧ c.toNat ≤ '9'.toNat := by
  simp [Char.isDigit, UInt32.le_iff_toNat_le]

namespace Json

/-! ### Numerals -/

namespace Numeral

theorem digits_cons (c : Char) (s : List Char) :
    digits (c :: s) = 10 ^ s.length * (c.toNat - '0'.toNat) + digits s := by
  have h := @Nat.ofDigitChars_eq_ofDigitChars_zero s (c.toNat - '0'.toNat)
  simpa [digits, Nat.ofDigitChars] using h

-- The first digit of a whole part is not zero, which bounds its value from below.
theorem pow_le_digits {s : List Char} (hd : ∀ c ∈ s, c.isDigit) (hw : isWhole s)
    (hl : 1 < s.length) : 10 ^ (s.length - 1) ≤ digits s := by
  cases s
  case nil => simp at hl
  case cons c s =>
    have hz : c ≠ '0' := by
      rintro rfl
      simp only [isWhole, List.head?_cons, Bool.and_eq_true, Bool.or_eq_true, bne_self_eq_false,
        Bool.false_eq_true, false_or, beq_iff_eq] at hw
      omega
    have hc : 0 < c.toNat - '0'.toNat := by
      have ⟨h, _⟩ := isDigit_iff.mp <| hd c List.mem_cons_self
      have : c.toNat ≠ '0'.toNat := fun h => hz <| Char.toNat_inj.mp h
      omega
    rw [digits_cons]
    exact Nat.le_trans (Nat.le_mul_of_pos_right _ hc) (Nat.le_add_right ..)

theorem digits_lt {s : List Char} (hd : ∀ c ∈ s, c.isDigit) : digits s < 10 ^ s.length := by
  induction s
  case nil => exact Nat.one_pos
  case cons c s hi =>
    have ⟨hc, hd⟩ := List.forall_mem_cons.mp hd
    have ⟨_, hc⟩ := isDigit_iff.mp hc
    have hc : c.toNat - '0'.toNat ≤ 9 := Nat.sub_le_sub_right hc '0'.toNat
    have hs := hi hd
    rw [digits_cons, List.length_cons, Nat.pow_succ]
    calc 10 ^ s.length * (c.toNat - '0'.toNat) + digits s
      _ ≤ 10 ^ s.length * 9 + digits s := Nat.add_le_add_right (Nat.mul_le_mul_left _ hc) _
      _ < 10 ^ s.length * 10 := by omega

theorem log2_digits {s : List Char} (hd : ∀ c ∈ s, c.isDigit) (hw : isWhole s)
    (hk : k + 1 < s.length) : k ≤ Nat.log2 (digits s) := by
  have hp := calc 2 ^ k
    _ ≤ 10 ^ k := Nat.pow_le_pow_left (by decide) _
    _ ≤ 10 ^ (s.length - 1) := Nat.pow_le_pow_right (by decide) (by omega)
    _ ≤ digits s := pow_le_digits hd hw (by omega)
  have : 0 < 2 ^ k := Nat.pow_pos Nat.two_pos
  exact (Nat.le_log2 (by omega)).mpr hp

-- A whole number too long to be converted is beyond every floating-point number.
theorem toFloat_of_long {n : Numeral} (hd : ∀ c ∈ n.whole, c.isDigit) (hw : isWhole n.whole)
    (hf : n.fraction = none) (he : n.exponent = none) (hl : Text.maxDigits < n.whole.length) :
    n.toFloat = .infinite n.negative := by
  rw [Text.maxDigits] at hl
  have hp := log2_digits hd hw (k := 1100) (by omega)
  have hz : digits n.whole ≠ 0 := by
    intro hz
    simp [hz] at hp
  simp only [toFloat, hf, he, Option.getD_none, List.append_nil, List.length_nil]
  rw [Number.Binary64.ofDecimal, if_neg, if_neg (by decide), if_pos (by decide)]
  case hnc => omega
  simpa using Number.Binary64.ofFraction_of_large n.negative hp

end Numeral

/-! ### The characters of words -/

-- Words stand in ASCII, and the null character is in none of them.
def IsWordChar (c : Char) : Prop :=
  0 < c.toNat ∧ c.toNat < 0x80

instance : DecidablePred IsWordChar :=
  fun c => inferInstanceAs (Decidable (0 < c.toNat ∧ c.toNat < 0x80))

theorem isWordChar_of_isDigit {c : Char} (h : c.isDigit) : IsWordChar c := by
  have ⟨h₁, h₂⟩ := isDigit_iff.mp h
  exact ⟨Nat.lt_of_lt_of_le (by decide) h₁, Nat.lt_of_le_of_lt h₂ (by decide)⟩

namespace Numeral

theorem mem_splitSign {s : List Char} (h : c ∈ s) : c = '-' ∨ c ∈ (splitSign s).2 := by
  unfold splitSign
  split
  case h_1 => simpa using h
  case h_2 => exact .inr h

theorem isWordChar_of_readExponent? (h : readExponent? s = some e) : ∀ c ∈ s, IsWordChar c := by
  unfold readExponent? at h
  split at h
  case h_1 => simp
  case h_2 m s =>
    split at h
    case isFalse => contradiction
    case isTrue hm =>
      have hm : IsWordChar m := by rcases hm with rfl | rfl <;> decide
      simp only [List.forall_mem_cons, hm, true_and]
      split at h
      case h_1 negative t ht =>
        split at h
        case isTrue => contradiction
        case isFalse hn =>
          simp only [Bool.or_eq_true, Bool.not_eq_true', not_or, Bool.not_eq_false] at hn
          -- Behind the mark stands a sign at the most, and then digits only.
          have hd : ∀ c ∈ t, IsWordChar c :=
            fun c hc => isWordChar_of_isDigit <| List.all_eq_true.mp hn.right c hc
          split at ht
          case h_1 =>
            cases ht
            exact List.forall_mem_cons.mpr ⟨by decide, hd⟩
          case h_2 =>
            intro c hc
            rcases mem_splitSign hc with rfl | hc
            case inl => decide
            case inr => exact hd c (by rwa [ht] at hc)

theorem isWordChar_of_read? (h : read? s = some n) : ∀ c ∈ s, IsWordChar c := by
  have hw (t : List Char) : ∀ c ∈ t.takeWhile Char.isDigit, IsWordChar c :=
    fun c hc => isWordChar_of_isDigit <| List.mem_takeWhile_imp hc
  have hs (t : List Char) (ht : ∀ c ∈ t.dropWhile Char.isDigit, IsWordChar c) :
      ∀ c ∈ t, IsWordChar c := by
    rw [← List.takeWhile_append_dropWhile (p := Char.isDigit) (l := t)]
    exact List.forall_mem_append.mpr ⟨hw t, ht⟩
  simp only [read?] at h
  split at h
  case isTrue => contradiction
  case isFalse =>
    have ht : ∀ c ∈ (splitSign s).2, IsWordChar c := by
      apply hs
      split at h
      case h_1 t he =>
        rw [he]
        refine List.forall_mem_cons.mpr ⟨by decide, hs t ?_⟩
        split at h
        case isTrue => contradiction
        case isFalse =>
          have ⟨e, he, _⟩ := Option.map_eq_some_iff.mp h
          exact isWordChar_of_readExponent? he
      case h_2 =>
        have ⟨e, he, _⟩ := Option.map_eq_some_iff.mp h
        exact isWordChar_of_readExponent? he
    intro c hc
    rcases mem_splitSign hc with rfl | hc
    case inl => decide
    case inr => exact ht c hc

theorem whole_of_read? (h : read? s = some n) :
    (∀ c ∈ n.whole, c.isDigit) ∧ isWhole n.whole := by
  simp only [read?] at h
  split at h
  case isTrue => contradiction
  case isFalse hw =>
    have hd : ∀ c ∈ (splitSign s).2.takeWhile Char.isDigit, c.isDigit :=
      fun c hc => List.mem_takeWhile_imp hc
    have hn : n.whole = (splitSign s).2.takeWhile Char.isDigit := by
      split at h
      case h_1 =>
        split at h
        case isTrue => contradiction
        case isFalse =>
          have ⟨_, _, he⟩ := Option.map_eq_some_iff.mp h
          simp [← he]
      case h_2 =>
        have ⟨_, _, he⟩ := Option.map_eq_some_iff.mp h
        simp [← he]
    rw [hn]
    exact ⟨hd, by simpa using hw⟩

end Numeral

-- The words that are no numerals.
def names : List (List Char) :=
  [ ['n', 'u', 'l', 'l'], ['t', 'r', 'u', 'e'], ['f', 'a', 'l', 's', 'e'], ['N', 'a', 'N'],
    ['I', 'n', 'f', 'i', 'n', 'i', 't', 'y'], ['-', 'I', 'n', 'f', 'i', 'n', 'i', 't', 'y'] ]

theorem scalar?_of_notMem (h : w ∉ names) (d : Dialect) :
    scalar? d w = (Numeral.read? w).bind (·.toJson? d) := by
  simp only [names, List.mem_cons, List.not_mem_nil, or_false, not_or] at h
  have ⟨h₁, h₂, h₃, h₄, h₅, h₆⟩ := h
  simp only [scalar?]
  rw [if_neg h₁, if_neg h₂, if_neg h₃, if_neg, if_neg, if_neg]
  all_goals simp_all

theorem isWordChar_of_scalar? {d : Dialect} (h : scalar? d w = some v) :
    ∀ c ∈ w, IsWordChar c := by
  have hn : ∀ w ∈ names, ∀ c ∈ w, IsWordChar c := by simp [names, IsWordChar]
  by_cases hm : w ∈ names
  case pos => exact hn w hm
  case neg =>
    rw [scalar?_of_notMem hm] at h
    have ⟨_, hr, _⟩ := Option.bind_eq_some_iff.mp h
    exact Numeral.isWordChar_of_read? hr

/-! ### Words in both dialects -/

variable [Runtime]

theorem Numeral.toFloat?_lenient {n : Numeral} (h : n.toFloat? .strict = some v) :
    n.toFloat? .lenient = some v := by
  unfold toFloat? at h ⊢
  split at h
  case h_1 => contradiction
  case h_2 => exact h

theorem Numeral.toJson?_lenient {n : Numeral} (hd : ∀ c ∈ n.whole, c.isDigit)
    (hw : isWhole n.whole) (h : n.toJson? .strict = some v) :
    (∃ m, n.toJson? .lenient = some (.int m) ∧ ¬Dialect.strict.holds m) ∨
      n.toJson? .lenient = some v := by
  unfold toJson? at h ⊢
  split at h
  case h_2 => exact .inr <| toFloat?_lenient h
  case h_1 hf he =>
    dsimp only at h ⊢
    generalize (if n.negative then -(digits n.whole : Int) else digits n.whole) = value at h ⊢
    have hv : Dialect.lenient.holds value = true := rfl
    simp only [hv, Bool.not_true, Bool.false_eq_true, if_false]
    split at h
    case isFalse => exact .inr h
    case isTrue hn =>
      -- The integer is read as a float, which is finite, and so there are not too many digits.
      have hl : n.whole.length ≤ Text.maxDigits := by
        by_contra hl
        rw [toFloat?, toFloat_of_long hd hw hf he (by omega)] at h
        contradiction
      rw [if_pos hl]
      exact .inl ⟨_, rfl, by simpa using hn⟩

-- A word of the strict dialect is a word of the lenient one, and of the same value unless it is an
-- integer that the strict dialect does not hold.
theorem scalar?_lenient (h : scalar? .strict w = some v) :
    (∃ n, scalar? .lenient w = some (.int n) ∧ ¬Dialect.strict.holds n) ∨
      scalar? .lenient w = some v := by
  by_cases hm : w ∈ names
  case pos =>
    -- Of the names the strict dialect has the first three, in the same sense.
    right
    simp only [names, List.mem_cons, List.not_mem_nil, or_false] at hm
    rcases hm with rfl | rfl | rfl | rfl | rfl | rfl
    case inl | inr.inl | inr.inr.inl => exact h
    all_goals exact nomatch h
  case neg =>
    rw [scalar?_of_notMem hm] at h ⊢
    have ⟨n, hr, hv⟩ := Option.bind_eq_some_iff.mp h
    rw [hr, Option.bind_some]
    exact Numeral.toJson?_lenient (Numeral.whole_of_read? hr).1 (Numeral.whole_of_read? hr).2 hv

end Json

end StepCatalog
