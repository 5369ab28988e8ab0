import Mathlib
import StepCatalog.Pattern

namespace StepCatalog

namespace Unicode

-- Two characters are the same letter if the lowercase of the one is a variant of the lowercase of
-- the other. Nothing here asks whether a character has case: one without case is its own lowercase,
-- and the only variant of it.
def SameLetter (k c : Nat) : Prop :=
  lower c ∈ lowerVariants (lower k)

theorem SameLetter.refl (c : Nat) : SameLetter c c := by
  simp [SameLetter, lowerVariants]

namespace CaseRun

theorem covers_iff {r : CaseRun} :
    r.covers c ↔ r.first ≤ c ∧ c ≤ r.last ∧ (c - r.first) % r.stride = 0 := by
  simp [covers, and_assoc]

-- One run, which is not empty, comes before another one.
def Before (a b : CaseRun) : Prop :=
  a.first ≤ a.last ∧ a.last < b.first

instance : DecidableRel Before :=
  fun a b => inferInstanceAs (Decidable (a.first ≤ a.last ∧ a.last < b.first))

instance : Trans Before Before Before where
  trans h₁ h₂ := ⟨h₁.left, Nat.lt_trans h₁.right <| Nat.lt_of_le_of_lt h₂.left h₂.right⟩

-- The run `u` covers the other case of every code point that `r` covers. Runs of which this holds
-- need not be compared code point by code point.
def mapsInto (r u : CaseRun) : Bool :=
  r.apply r.last ≤ u.last && u.first ≤ r.apply r.first &&
    (r.apply r.first - u.first) % u.stride == 0 && (r.first == r.last || r.stride % u.stride == 0)

def points (r : CaseRun) : List Nat :=
  List.range' r.first (r.last + 1 - r.first)

theorem mem_points {r : CaseRun} (h : r.covers c) : c ∈ r.points := by
  have ⟨h₁, h₂, _⟩ := covers_iff.mp h
  simp only [points, List.mem_range'_1]
  omega

theorem mapsInto_covers {r u : CaseRun}
    (h : r.mapsInto u) (hn : 0 ≤ r.first + r.shift) (hc : r.covers c) : u.covers (r.apply c) := by
  simp only [mapsInto, Bool.and_eq_true, decide_eq_true_eq, beq_iff_eq, Bool.or_eq_true] at h
  have ⟨⟨⟨h₁, h₂⟩, h₃⟩, h₄⟩ := h
  have ⟨hc₁, hc₂, hc₃⟩ := covers_iff.mp hc
  have hd : r.apply c = r.apply r.first + (c - r.first) := by simp only [apply]; omega
  have hl : r.apply c ≤ r.apply r.last := by simp only [apply]; omega
  refine covers_iff.mpr ⟨by omega, by omega, ?_⟩
  have hs : (c - r.first) % u.stride = 0 := by
    cases h₄
    case inl he => simp [show c - r.first = 0 by omega]
    case inr hs =>
      exact Nat.mod_eq_zero_of_dvd <|
        Nat.dvd_trans (Nat.dvd_of_mod_eq_zero hs) (Nat.dvd_of_mod_eq_zero hc₃)
  rw [hd, Nat.sub_add_comm h₂, Nat.add_mod, h₃, hs]
  simp

end CaseRun

theorem mapIn_ne {runs : List CaseRun} (h : mapIn runs c ≠ c) :
    ∃ r ∈ runs, r.covers c ∧ mapIn runs c = r.apply c := by
  induction runs <;> simp only [mapIn] at h ⊢
  case nil => contradiction
  case cons r rs hi =>
    split at h
    case isTrue => contradiction
    case isFalse h₁ =>
      rw [if_neg h₁]
      split at h
      case isTrue h₂ =>
        rw [if_pos h₂]
        split at h
        case isTrue h₃ => exact ⟨r, List.mem_cons_self, h₃, if_pos h₃⟩
        case isFalse => contradiction
      case isFalse h₂ =>
        rw [if_neg h₂]
        have ⟨r', hm, hr⟩ := hi h
        exact ⟨r', List.mem_cons_of_mem _ hm, hr⟩

theorem mapIn_of_covers {runs : List CaseRun} {u : CaseRun}
    (hp : runs.Pairwise CaseRun.Before) (hu : u ∈ runs) (hc : u.covers c) :
    mapIn runs c = u.apply c := by
  have ⟨h₁, h₂, _⟩ := CaseRun.covers_iff.mp hc
  induction runs <;> simp only [mapIn]
  case nil => contradiction
  case cons r rs hi =>
    have ⟨hr, hp⟩ := List.pairwise_cons.mp hp
    cases hu
    case head => rw [if_neg (by omega), if_pos h₂, if_pos hc]
    case tail hu =>
      have ⟨hb₁, hb₂⟩ := hr u hu
      rw [if_neg (by omega), if_neg (by omega), hi hp hu]

-- The tables are checked once. The two tables of runs are nearly inverse to each other, so most
-- runs are compared as a whole.
theorem lowercaseRuns_mapsInto :
    lowercaseRuns.all (fun r => 0 ≤ r.first + r.shift &&
      (uppercaseRuns.any r.mapsInto || r.points.all fun c => hasCase (r.apply c))) = true := by
  decide +kernel

theorem uppercaseRuns_pairwise : uppercaseRuns.Pairwise CaseRun.Before :=
  List.isChain_iff_pairwise.mp (by decide +kernel)

theorem uppercaseRuns_shift : uppercaseRuns.all (fun u => 0 < u.first && u.shift != 0) = true := by
  decide +kernel

theorem sharedUppercase_hasCase : sharedUppercase.all (fun e => hasCase e.1) = true := by
  decide +kernel

theorem hasCase_of_covers {u : CaseRun} (hu : u ∈ uppercaseRuns) (hc : u.covers c) :
    hasCase c = true := by
  have hs := List.all_eq_true.mp uppercaseRuns_shift u hu
  simp only [Bool.and_eq_true, decide_eq_true_eq, bne_iff_ne] at hs
  have ⟨h₁, _⟩ := CaseRun.covers_iff.mp hc
  have hn : upper c ≠ c := by
    rw [upper, mapIn_of_covers uppercaseRuns_pairwise hu hc, CaseRun.apply]
    omega
  simp [hasCase, hn]

-- What is the lowercase of something else has an uppercase.
theorem hasCase_lower (h : lower c ≠ c) : hasCase (lower c) = true := by
  have ⟨r, hr, hc, he⟩ := mapIn_ne h
  have ht := List.all_eq_true.mp lowercaseRuns_mapsInto r hr
  simp only [Bool.and_eq_true, decide_eq_true_eq, Bool.or_eq_true, List.any_eq_true,
    List.all_eq_true] at ht
  have ⟨hn, ht⟩ := ht
  rw [lower, he]
  cases ht
  case inl ht =>
    have ⟨u, hu, hm⟩ := ht
    exact hasCase_of_covers hu <| CaseRun.mapsInto_covers hm hn hc
  case inr ht => exact ht c <| CaseRun.mem_points hc

theorem lower_of_not_hasCase (h : hasCase c = false) : lower c = c := by
  simp only [hasCase, Bool.or_eq_false_iff, bne_eq_false_iff_eq] at h
  exact h.left

theorem othersIn_ne_nil {entries : List (Nat × List Nat)} (h : othersIn entries l ≠ []) :
    ∃ e ∈ entries, e.1 = l := by
  induction entries <;> simp only [othersIn] at h
  case nil => contradiction
  case cons e es hi =>
    split at h
    case isTrue => contradiction
    case isFalse =>
      split at h
      case isTrue he => exact ⟨e, List.mem_cons_self, he.symm⟩
      case isFalse =>
        have ⟨e', hm, he⟩ := hi h
        exact ⟨e', List.mem_cons_of_mem _ hm, he⟩

theorem lowerVariants_of_not_hasCase (h : hasCase l = false) : lowerVariants l = [l] := by
  by_contra hn
  have ho : othersIn sharedUppercase l ≠ [] := by
    intro ho
    simp [lowerVariants, ho] at hn
  have ⟨e, hm, he⟩ := othersIn_ne_nil ho
  have := he ▸ List.all_eq_true.mp sharedUppercase_hasCase e hm
  simp_all

theorem sameLetter_iff_of_not_hasCase (h : hasCase k = false) : SameLetter k c ↔ c = k := by
  rw [SameLetter, lower_of_not_hasCase h, lowerVariants_of_not_hasCase h, List.mem_singleton]
  constructor
  case mp =>
    intro hl
    by_contra hn
    have := hasCase_lower (c := c) fun he => hn (he ▸ hl)
    simp_all
  case mpr =>
    intro he
    rw [he, lower_of_not_hasCase h]

end Unicode

namespace Regex.Flags

-- Where case is ignored in all of Unicode, a text's character passes for a pattern's character
-- exactly if the two are the same letter.
theorem sameChar_iff {fs : Flags} (hi : fs.ignoreCase = true) (ha : fs.ascii = false) :
    fs.sameChar k c ↔ Unicode.SameLetter k c := by
  simp only [sameChar, folds, hasCase, foldCase, variants, hi, ha, Bool.true_and,
    Bool.false_eq_true, if_false, Bool.or_eq_true, Bool.and_eq_true, beq_iff_eq]
  cases hc : Unicode.hasCase k
  case false => simp [Unicode.sameLetter_iff_of_not_hasCase hc]
  case true =>
    simp only [true_and, List.contains_iff_mem, Unicode.SameLetter, or_iff_right_iff_imp]
    intro he
    exact he ▸ Unicode.SameLetter.refl c

end Regex.Flags

end StepCatalog
