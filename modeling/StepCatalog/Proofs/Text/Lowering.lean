import Mathlib
import StepCatalog.Proofs.Text.Pieces
import StepCatalog.Proofs.Unicode.Caseless
import StepCatalog.Text.Lower

namespace StepCatalog.Text

open List Unicode

variable {c : Char} {before after : List Char}

/-! ### Blanks -/

theorem blankRanges_caseless : blankRanges.all (fun r =>
    uniformIn? casedRanges r.1 r.2 == some false &&
      uniformIn? caseIgnorableRanges r.1 r.2 == some false && !rangeHasCase r.1 r.2) = true := by
  decide +kernel

-- Case means nothing to a blank, which ends the word of every letter beside it.
theorem caseless_of_isBlank (h : isBlank c) :
    isCased c.toNat = false ∧ isCaseIgnorable c.toNat = false ∧ hasCase c.toNat = false := by
  have ⟨r, hr, h₁, h₂⟩ := exists_of_inRanges h
  have hc := all_eq_true.mp blankRanges_caseless r hr
  simp only [Bool.and_eq_true, beq_iff_eq, Bool.not_eq_true'] at hc
  exact ⟨inRanges_of_uniformIn? hc.1.1 h₁ h₂, inRanges_of_uniformIn? hc.1.2 h₁ h₂,
    not_hasCase_of_rangeHasCase hc.2 h₁ h₂⟩

theorem lower_of_isBlank (h : isBlank c) : lower c.toNat = c.toNat := by
  have hc := (caseless_of_isBlank h).2.2
  simp only [hasCase, Bool.or_eq_false_iff, bne_eq_false_iff_eq] at hc
  exact hc.left

theorem lowerChar_of_isBlank (h : isBlank c) : lowerChar before c after = [c] := by
  have hs : c ≠ '\u03a3' := by rintro rfl; revert h; decide
  have hi : c ≠ '\u0130' := by rintro rfl; revert h; decide
  rw [lowerChar, if_neg hs, if_neg hi, lower_of_isBlank h, Char.ofNat_toNat]

theorem adjoinsCased_append (h : isBlank c) (s t : List Char) :
    adjoinsCased (s ++ c :: t) = adjoinsCased s := by
  have ⟨hc, hi, _⟩ := caseless_of_isBlank h
  induction s
  case nil => simp [adjoinsCased, hc, hi]
  case cons d s hs =>
    simp only [adjoinsCased, cons_append, dropWhile_cons] at hs ⊢
    split
    case isTrue  => exact hs
    case isFalse => rfl

theorem lowerAfter_append_before (h : isBlank c) (before s t : List Char) :
    lowerAfter (before ++ c :: s) t = lowerAfter before t := by
  induction t generalizing before
  case nil => rfl
  case cons d t hi =>
    have hb : isFinalSigma (before ++ c :: s) t = isFinalSigma before t := by
      simp only [isFinalSigma, adjoinsCased_append h]
    simp only [lowerAfter, lowerChar, hb, ← hi (d :: before), cons_append]

theorem lowerAfter_append (h : isBlank c) (before s t : List Char) :
    lowerAfter before (s ++ c :: t) = lowerAfter before s ++ c :: lowerChars t := by
  induction s generalizing before
  case nil =>
    have := lowerAfter_append_before h [] before t
    simpa [lowerAfter, lowerChar_of_isBlank h, lowerChars] using this
  case cons d s hi =>
    have ha : isFinalSigma before (s ++ c :: t) = isFinalSigma before s := by
      simp only [isFinalSigma, adjoinsCased_append h]
    simp only [cons_append, lowerAfter, lowerChar, ha, hi, append_assoc]

-- A blank cuts a text in two that are lowercased by themselves.
theorem lowerChars_append (h : isBlank c) (s t : List Char) :
    lowerChars (s ++ c :: t) = lowerChars s ++ c :: lowerChars t :=
  lowerAfter_append h [] s t

/-! ### Letters -/

theorem mem_lowerAfter (h : d ∈ lowerAfter before s) :
    ∃ c ∈ s, ∃ before after, d ∈ lowerChar before c after := by
  induction s generalizing before
  case nil => contradiction
  case cons c s hi =>
    rcases mem_append.mp h with h | h
    case inl => exact ⟨c, mem_cons_self, _, _, h⟩
    case inr =>
      have ⟨e, he, h⟩ := hi h
      exact ⟨e, mem_cons_of_mem c he, h⟩

-- What a letter becomes is one of three things, whatever stands around it.
theorem of_mem_lowerChar (h : d ∈ lowerChar before c after) :
    (c = '\u03a3' ∧ (d = '\u03c2' ∨ d = '\u03c3')) ∨
    (c = '\u0130' ∧ (d = 'i' ∨ d = '\u0307')) ∨
    d = Char.ofNat (lower c.toNat) := by
  simp only [lowerChar] at h
  split_ifs at h with hs hd <;> simp_all

theorem isBlank_of_mem_lowerChar (h : d ∈ lowerChar before c after) : isBlank d = isBlank c := by
  rcases of_mem_lowerChar h with ⟨rfl, rfl | rfl⟩ | ⟨rfl, rfl | rfl⟩ | rfl
  case inr.inr =>
    have hl : inRanges blankRanges (lower c.toNat) = isBlank c := isBlank_lower c.toNat
    rw [isBlank, Char.toNat_ofNat]
    split
    case isTrue => exact hl
    case isFalse hv =>
      -- No blank comes to this, since a blank is its own lowercase.
      cases hc : isBlank c
      case false => rfl
      case true =>
        rw [lower_of_isBlank hc] at hv
        exact absurd c.valid hv
  all_goals decide

theorem not_isBlank_lowerAfter (hs : ∀ c ∈ s, isBlank c = false) (before : List Char) :
    ∀ d ∈ lowerAfter before s, isBlank d = false := by
  intro d hd
  have ⟨c, hc, _, _, hm⟩ := mem_lowerAfter hd
  exact (isBlank_of_mem_lowerChar hm).trans <| hs c hc

theorem lowerChar_ne_nil (before after : List Char) (c : Char) : lowerChar before c after ≠ [] := by
  simp only [lowerChar]
  split_ifs <;> exact cons_ne_nil _ _

theorem lowerAfter_eq_nil : lowerAfter before s = [] ↔ s = [] := by
  cases s <;> simp [lowerAfter, lowerChar_ne_nil]

theorem not_capital_of_mem_lowerAfter (h : d ∈ lowerAfter before s) : ¬('A' ≤ d ∧ d ≤ 'Z') := by
  have ⟨c, _, _, _, h⟩ := mem_lowerAfter h
  rcases of_mem_lowerChar h with ⟨_, rfl | rfl⟩ | ⟨_, rfl | rfl⟩ | rfl
  case inr.inr =>
    rintro ⟨h₁, h₂⟩
    have hc := lower_not_capital c.toNat
    replace h₁ : 65 ≤ (Char.ofNat (lower c.toNat)).toNat := h₁
    replace h₂ : (Char.ofNat (lower c.toNat)).toNat ≤ 90 := h₂
    simp only [inRanges, Char.toNat_ofNat] at hc h₁ h₂
    split_ifs at hc h₁ h₂ <;> omega
  all_goals decide

-- Lowercasing a text lowercases its words.
theorem pieces_lowerChars (s : List Char) :
    pieces isBlank (lowerChars s) = (pieces isBlank s).map lowerChars := by
  have word {s : List Char} (hs : ∀ c ∈ s, isBlank c = false) :
      pieces isBlank (lowerChars s) = (pieces isBlank s).map lowerChars := by
    have hl : ∀ c ∈ lowerChars s, isBlank c = false := not_isBlank_lowerAfter hs []
    have hn : lowerChars s = [] ↔ s = [] := lowerAfter_eq_nil
    rw [pieces_of_forall_not hs, pieces_of_forall_not hl]
    cases s
    case nil => rfl
    case cons => simp [hn]
  induction s using @cut_induction isBlank
  case word s hs => exact word hs
  case cut s c t hs hc hi =>
    rw [lowerChars_append hc, pieces_append_cons hc, pieces_append_cons hc, map_append, word hs, hi]

/-! ### Capitals -/

theorem capitals_alike : ∀ n ∈ List.range' 0x41 26, isCased (n + 32) = isCased n ∧
    isCaseIgnorable (n + 32) = isCaseIgnorable n ∧ lower (n + 32) = lower n := by
  decide +kernel

theorem toLower_eq_or (c : Char) :
    c.toLower = c ∨ c.toNat ∈ List.range' 0x41 26 ∧ c.toLower.toNat = c.toNat + 32 := by
  by_cases h : 'A'.val ≤ c.val ∧ c.val ≤ 'Z'.val
  case neg => exact .inl <| dif_neg h
  case pos =>
    have h₁ : 65 ≤ c.toNat := h.left
    have h₂ : c.toNat ≤ 90 := h.right
    have hl : c.toLower.toNat = (c.val + 32).toNat := by rw [Char.toLower, dif_pos h]; rfl
    refine .inr ⟨mem_range'_1.mpr ⟨h₁, by omega⟩, hl.trans ?_⟩
    have hs : c.toNat + 32 < 2 ^ 32 := by omega
    exact (UInt32.toNat_add c.val 32).trans <| Nat.mod_eq_of_lt hs

theorem toLower_alike (c : Char) : isCased c.toLower.toNat = isCased c.toNat ∧
    isCaseIgnorable c.toLower.toNat = isCaseIgnorable c.toNat := by
  rcases toLower_eq_or c with h | ⟨hc, hl⟩
  case inl => simp only [h, and_self]
  case inr =>
    have ⟨h₁, h₂, _⟩ := capitals_alike _ hc
    exact hl ▸ ⟨h₁, h₂⟩

theorem lowerChar_toLower (c : Char) :
    lowerChar before c.toLower after = lowerChar before c after := by
  rcases toLower_eq_or c with h | ⟨hc, hl⟩
  case inl => rw [h]
  case inr =>
    have hn := mem_range'_1.mp hc
    have hne (d : Char) (hd : 0x100 ≤ d.toNat) : c ≠ d ∧ c.toLower ≠ d :=
      ⟨by rintro rfl; omega, by rintro rfl; omega⟩
    have ⟨hs, hs'⟩ := hne '\u03a3' (by decide)
    have ⟨hi, hi'⟩ := hne '\u0130' (by decide)
    simp only [lowerChar, if_neg hs, if_neg hs', if_neg hi, if_neg hi', hl,
      (capitals_alike _ hc).2.2]

theorem adjoinsCased_map_toLower (s : List Char) :
    adjoinsCased (s.map Char.toLower) = adjoinsCased s := by
  induction s
  case nil => rfl
  case cons c s hi =>
    have ⟨hc, hn⟩ := toLower_alike c
    simp only [adjoinsCased, map_cons, dropWhile_cons, hn] at hi ⊢
    split
    case isTrue  => exact hi
    case isFalse => simp only [head?_cons, Option.any_some, hc]

-- A text says the same in small letters as in capitals.
theorem lowerAfter_map_toLower (before s : List Char) :
    lowerAfter (before.map Char.toLower) (s.map Char.toLower) = lowerAfter before s := by
  induction s generalizing before
  case nil => rfl
  case cons c s hi =>
    have hs : isFinalSigma (before.map Char.toLower) (s.map Char.toLower) =
        isFinalSigma before s := by
      simp only [isFinalSigma, adjoinsCased_map_toLower]
    have hc : lowerChar (before.map Char.toLower) c.toLower (s.map Char.toLower) =
        lowerChar before c s := by
      rw [lowerChar_toLower, lowerChar, lowerChar, hs]
    rw [map_cons, lowerAfter, hc, ← map_cons, hi, lowerAfter]

theorem lowerChars_map_toLower (s : List Char) :
    lowerChars (s.map Char.toLower) = lowerChars s :=
  lowerAfter_map_toLower [] s

/-! ### Sigmas -/

-- Nothing but a sigma looks at what stands before it.
theorem lowerAfter_congr (h : '\u03a3' ∉ s) (before before' : List Char) :
    lowerAfter before s = lowerAfter before' s := by
  induction s generalizing before before'
  case nil => rfl
  case cons c s hi =>
    have ⟨hc, hs⟩ := not_or.mp <| mt mem_cons.mpr h
    simp only [lowerAfter, lowerChar, if_neg (Ne.symm hc), hi hs (c :: before) (c :: before')]

theorem lowerAfter_append_of_not_mem (h : '\u03a3' ∉ s) (before t : List Char) :
    lowerAfter before (s ++ t) = lowerAfter before s ++ lowerAfter (s.reverse ++ before) t := by
  induction s generalizing before
  case nil => rfl
  case cons c s hi =>
    have ⟨hc, hs⟩ := not_or.mp <| mt mem_cons.mpr h
    simp [lowerAfter, lowerChar, Ne.symm hc, hi hs]

theorem sigma_mem_lowerAfter (h : '\u03a3' ∈ s) (before : List Char) :
    '\u03c2' ∈ lowerAfter before s ∨ '\u03c3' ∈ lowerAfter before s := by
  induction s generalizing before
  case nil => contradiction
  case cons c s hi =>
    simp only [lowerAfter, mem_append]
    rcases mem_cons.mp h with rfl | h
    case inl =>
      have hs : '\u03c2' ∈ lowerChar before '\u03a3' s ∨
          '\u03c3' ∈ lowerChar before '\u03a3' s := by
        rw [lowerChar, if_pos rfl]
        split <;> simp
      exact hs.imp .inl .inl
    case inr => exact (hi h _).imp .inr .inr

end StepCatalog.Text
