import Mathlib
import StepCatalog.Proofs.Unicode.SameLetter
import StepCatalog.Text.Blank
import StepCatalog.Unicode.Number

namespace StepCatalog.Unicode

/-! ### Ranges and case -/

theorem exists_of_inRanges {ranges : List (Nat × Nat)} (h : inRanges ranges c) :
    ∃ r ∈ ranges, r.1 ≤ c ∧ c ≤ r.2 := by
  induction ranges
  case nil => contradiction
  case cons r rest hi =>
    simp only [inRanges] at h
    split_ifs at h with hl hh
    case pos => exact ⟨r, List.mem_cons_self, not_lt.mp hl, hh⟩
    case neg =>
      have ⟨r, hr, hc⟩ := hi h
      exact ⟨r, List.mem_cons_of_mem _ hr, hc⟩

-- Whether all code points from `low` to `high` are in the ranges, or none of them, where one look
-- at each range tells.
def uniformIn? : List (Nat × Nat) → Nat → Nat → Option Bool
  | [], _, _ => some false
  | (lo, hi) :: rest, low, high =>
    bif Nat.ble lo low && Nat.blt hi low then uniformIn? rest low high
    else bif Nat.blt high lo then some false
    else bif Nat.ble lo low && Nat.ble high hi then some true
    else none

theorem inRanges_of_uniformIn? {ranges : List (Nat × Nat)} (h : uniformIn? ranges low high = some b)
    (hl : low ≤ c) (hh : c ≤ high) : inRanges ranges c = b := by
  induction ranges
  case nil => exact Option.some.inj h
  case cons x rest hi =>
    rw [uniformIn?] at h
    simp only [cond_eq_ite, Bool.and_eq_true, Nat.ble_eq, Nat.blt_eq] at h
    rw [inRanges]
    split_ifs at h
    case pos hx => rw [if_neg (by omega), if_neg (by omega), hi h]
    case pos hx =>
      rw [if_pos (by omega)]
      exact Option.some.inj h
    case pos hx =>
      rw [if_neg (by omega), if_pos (by omega)]
      exact Option.some.inj h

theorem CaseRun.apply_bounds {r : CaseRun} (hc : r.covers c) :
    r.apply r.first ≤ r.apply c ∧ r.apply c ≤ r.apply r.last := by
  have ⟨h₁, h₂, _⟩ := covers_iff.mp hc
  simp only [apply]
  omega

-- The lowercase of a code point that the run covers is in the ranges if the code point is.
def CaseRun.keeps (ranges : List (Nat × Nat)) (r : CaseRun) : Bool :=
  (uniformIn? ranges r.first r.last).any (fun b =>
    uniformIn? ranges (r.apply r.first) (r.apply r.last) == some b) ||
  r.points.all fun c => !r.covers c || inRanges ranges c == inRanges ranges (r.apply c)

theorem CaseRun.keeps_apply {ranges : List (Nat × Nat)} {r : CaseRun} (h : r.keeps ranges)
    (hc : r.covers c) : inRanges ranges (r.apply c) = inRanges ranges c := by
  have ⟨h₁, h₂, _⟩ := covers_iff.mp hc
  rw [keeps, Bool.or_eq_true] at h
  cases h
  case inl h =>
    have ⟨b, hb, ha⟩ := Option.any_eq_true _ _ |>.mp h
    have ⟨ha₁, ha₂⟩ := apply_bounds hc
    rw [inRanges_of_uniformIn? hb h₁ h₂]
    exact inRanges_of_uniformIn? (eq_of_beq ha) ha₁ ha₂
  case inr h =>
    have := List.all_eq_true.mp h c <| mem_points hc
    simp only [hc, Bool.not_true, Bool.false_or, beq_iff_eq] at this
    exact this.symm

-- A table of ranges in which a code point stands if and only if its lowercase does.
structure CaselessTable where
  ranges : List (Nat × Nat)
  keeps : lowercaseRuns.all (CaseRun.keeps ranges) = true

namespace CaselessTable

theorem inRanges_lower (t : CaselessTable) (c : Nat) :
    inRanges t.ranges (lower c) = inRanges t.ranges c := by
  by_cases hl : lower c = c
  case pos => rw [hl]
  case neg =>
    have ⟨r, hr, hc, he⟩ := mapIn_ne hl
    rw [lower, he]
    exact CaseRun.keeps_apply (List.all_eq_true.mp t.keeps r hr) hc

def letters : CaselessTable := ⟨letterRanges, by decide +kernel⟩

def decimals : CaselessTable := ⟨decimalRanges, by decide +kernel⟩

def numerals : CaselessTable := ⟨numeralRanges, by decide +kernel⟩

def blanks : CaselessTable := ⟨Text.blankRanges, by decide +kernel⟩

end CaselessTable

theorem isLetter_lower (c : Nat) : isLetter (lower c) = isLetter c :=
  CaselessTable.letters.inRanges_lower c

theorem isDecimal_lower (c : Nat) : isDecimal (lower c) = isDecimal c :=
  CaselessTable.decimals.inRanges_lower c

theorem isBlank_lower (c : Nat) :
    inRanges Text.blankRanges (lower c) = inRanges Text.blankRanges c :=
  CaselessTable.blanks.inRanges_lower c

theorem isWord_lower (c : Nat) : isWord (lower c) = isWord c := by
  have hn : inRanges numeralRanges (lower c) = inRanges numeralRanges c :=
    CaselessTable.numerals.inRanges_lower c
  have hu : (lower c == 0x5f) = (c == 0x5f) := by
    by_cases hl : lower c = c
    case pos => rw [hl]
    case neg =>
      have hc : hasCase 0x5f = false := by decide
      have hm : lower 0x5f = 0x5f := by decide
      have h₁ : lower c ≠ 0x5f := fun h => by simp [h ▸ hasCase_lower hl] at hc
      have h₂ : c ≠ 0x5f := fun h => hl <| h ▸ hm
      rw [beq_false_of_ne h₁, beq_false_of_ne h₂]
  simp only [isWord, isAlphanumeric, isLetter_lower, isDecimal_lower, hn, hu]

-- The tables are checked once: no code point has a Latin capital letter for its lowercase.
theorem lower_not_capital (c : Nat) : inRanges [(0x41, 0x5a)] (lower c) = false := by
  have hr : lowercaseRuns.all (fun r =>
      uniformIn? [(0x41, 0x5a)] (r.apply r.first) (r.apply r.last) == some false) = true := by
    decide +kernel
  by_cases hl : lower c = c
  case neg =>
    have ⟨r, hm, hc, he⟩ := mapIn_ne hl
    have ⟨h₁, h₂⟩ := CaseRun.apply_bounds hc
    rw [lower, he]
    exact inRanges_of_uniformIn? (eq_of_beq <| List.all_eq_true.mp hr r hm) h₁ h₂
  case pos =>
    by_contra hn
    obtain ⟨r, hm, h₁, h₂⟩ := exists_of_inRanges <| Bool.not_eq_false _ |>.mp hn
    have hp : ∀ n ∈ List.range' 0x41 26, lower n ≠ n := by decide +kernel
    rw [List.mem_singleton.mp hm, hl] at h₁ h₂
    exact hp c (List.mem_range'_1.mpr ⟨h₁, by omega⟩) hl

/-! ### Ranges without case -/

theorem caseRuns_stride :
    (lowercaseRuns ++ uppercaseRuns).all (fun r => r.stride == 1 || r.stride == 2) = true := by
  decide +kernel

theorem lowercaseRuns_pairwise : lowercaseRuns.Pairwise CaseRun.Before :=
  List.isChain_iff_pairwise.mp (by decide +kernel)

theorem CaseRun.meets_of_covers {r : CaseRun} (hs : r.stride = 1 ∨ r.stride = 2)
    (hc : r.covers c) (hl : low ≤ c) (hh : c ≤ high) : r.meets low high := by
  have ⟨h₁, h₂, h₃⟩ := covers_iff.mp hc
  simp only [meets, decide_eq_true_eq]
  rcases hs with hs | hs <;> simp only [hs] at h₃ ⊢ <;> omega

theorem anyMeets_of_covers {runs : List CaseRun} (hp : runs.Pairwise CaseRun.Before)
    (hu : u ∈ runs) (hs : u.stride = 1 ∨ u.stride = 2) (hc : u.covers c) (hl : low ≤ c)
    (hh : c ≤ high) : anyMeets runs low high := by
  have ⟨h₁, _⟩ := CaseRun.covers_iff.mp hc
  induction runs
  case nil => contradiction
  case cons r rs hi =>
    have ⟨hr, hp⟩ := List.pairwise_cons.mp hp
    rw [anyMeets]
    cases hu
    case head =>
      rw [if_neg (by omega), CaseRun.meets_of_covers hs hc hl hh]
      rfl
    case tail hu =>
      have ⟨hb₁, hb₂⟩ := hr u hu
      rw [if_neg (by omega), hi hp hu, Bool.or_true]

theorem not_hasCase_of_rangeHasCase (h : rangeHasCase low high = false) (hl : low ≤ c)
    (hh : c ≤ high) : hasCase c = false := by
  have hs (r : CaseRun) (hr : r ∈ lowercaseRuns ++ uppercaseRuns) :
      r.stride = 1 ∨ r.stride = 2 := by
    simpa using List.all_eq_true.mp caseRuns_stride r hr
  simp only [rangeHasCase, Bool.or_eq_false_iff] at h
  have hlower : lower c = c := by
    by_contra hn
    have ⟨r, hr, hc, _⟩ := mapIn_ne hn
    simp [anyMeets_of_covers lowercaseRuns_pairwise hr (hs r <| List.mem_append_left _ hr) hc hl hh]
      at h
  have hupper : upper c = c := by
    by_contra hn
    have ⟨r, hr, hc, _⟩ := mapIn_ne hn
    simp [anyMeets_of_covers uppercaseRuns_pairwise hr (hs r <| List.mem_append_right _ hr) hc hl
      hh] at h
  simp [hasCase, hlower, hupper]

end StepCatalog.Unicode
