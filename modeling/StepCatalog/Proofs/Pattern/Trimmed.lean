import Mathlib
import StepCatalog.Proofs.Reconcile
import StepCatalog.Proofs.Template.Display
import StepCatalog.Proofs.Text.Lowering

namespace StepCatalog

open List Text

namespace Template

variable {segments : List (List Char)} {raw s t : List Char} {c : Char}

/-! ### Blanks at the ends -/

-- A blank has no case and is matched by no other character.
theorem sameLetters_blank (hc : isBlank c) (h : SameLetters [c] t) : t = [c] := by
  cases h with | cons hd h => cases h with | nil =>
  have hd := (Unicode.sameLetter_iff_of_not_hasCase (caseless_of_isBlank hc).2.2).mp hd
  rw [Char.toNat_inj.mp hd]

theorem SameLetters.head? (h : SameLetters s t) (hs : s.head? = some c) (hc : isBlank c) :
    t.head? = some c := by
  obtain ⟨s, rfl⟩ := head?_eq_some_iff.mp hs
  obtain ⟨_, t, rfl, h, _⟩ := sameLetters_append_iff (a := [c]).mp h
  rw [sameLetters_blank hc h]
  rfl

theorem SameLetters.getLast? (h : SameLetters s t) (hs : s.getLast? = some c) (hc : isBlank c) :
    t.getLast? = some c := by
  obtain ⟨s, rfl⟩ := getLast?_eq_some_iff.mp hs
  obtain ⟨t, _, rfl, _, h⟩ := sameLetters_append_iff.mp h
  rw [sameLetters_blank hc h, getLast?_append]
  rfl

-- Placeholders begin and end in braces, so a blank at an end belongs to a literal segment.
theorem Splits.head?_of_fits (h : Splits raw segments) (hf : Fits segments t)
    (hr : raw.head? = some c) (hc : isBlank c) : t.head? = some c := by
  cases h
  case last => exact hf.head? hr hc
  case hole s n raw segments _ _ _ h =>
    obtain ⟨l, w, u, rfl, hl, _, _⟩ := (fits_cons_iff h.ne_nil).mp hf
    cases s
    case nil =>
      cases hr
      exact absurd hc (by decide)
    case cons d s =>
      have hl := SameLetters.head? hl (c := c) (by simpa using hr) hc
      simp [head?_append, hl]

theorem Splits.getLast?_of_fits (h : Splits raw segments) (hf : Fits segments t)
    (hr : raw.getLast? = some c) (hc : isBlank c) : t.getLast? = some c := by
  induction h generalizing t
  case last => exact hf.getLast? hr hc
  case hole s n raw segments _ _ _ h hi =>
    obtain ⟨l, w, u, rfl, _, _, hu⟩ := (fits_cons_iff h.ne_nil).mp hf
    rw [getLast?_append, getLast?_cons] at hr
    cases hl : raw.getLast?
    case none =>
      simp only [hl] at hr
      cases hr
      exact absurd hc (by decide)
    case some d =>
      have hr : d = c := by simpa [hl] using hr
      simp [getLast?_append, hi hu (hr ▸ hl)]

-- A template that begins or ends in a blank stands for no trimmed text.
theorem stripChars_of_fits (hf : Fits (split raw) t) (ht : stripChars t = t) :
    stripChars raw = raw := by
  have ⟨hb, he⟩ := stripChars_eq_self_iff.mp ht
  have hs := splits_split raw
  refine stripChars_eq_self_iff.mpr ⟨?_, ?_⟩
  case refine_1 =>
    intro c hr
    by_contra hc
    exact hc <| hb c <| hs.head?_of_fits hf hr <| Bool.eq_true_of_not_eq_false hc
  case refine_2 =>
    intro c hr
    by_contra hc
    exact hc <| he c <| hs.getLast?_of_fits hf hr <| Bool.eq_true_of_not_eq_false hc

/-! ### Texts that fit -/

theorem SameLetters.refl (s : List Char) : SameLetters s s :=
  forall₂_same.mpr fun c _ => Unicode.SameLetter.refl c.toNat

-- A template stands for itself if its placeholders stand for what they are written as.
theorem Splits.fits_self (h : Splits raw segments) (hn : ∀ n, HasPlaceholder raw n → '\n' ∉ n) :
    Fits segments raw := by
  induction h
  case last s _ => exact .refl s
  case hole s n raw _ hs hne hc h hi =>
    have hw : '\n' ∉ '{' :: n ++ ['}'] := by simpa using hn n <| .first hs hne hc
    exact (fits_cons_iff h.ne_nil).mpr ⟨s, '{' :: n ++ ['}'], raw, by simp, .refl s, hw,
      hi fun m hm => hn m <| .later hs hne hc hm⟩

theorem fits_join (hs : segments ≠ []) (hb : '\n' ∉ between) :
    Fits segments (join between segments) := by
  induction segments
  case nil => contradiction
  case cons s rest hi =>
    cases rest
    case nil => exact .refl s
    case cons s' rest =>
      have hr : s' :: rest ≠ [] := cons_ne_nil _ _
      exact (fits_cons_iff hr).mpr ⟨s, between, _, join_cons hr .., .refl s, hb, hi hr⟩

theorem stripChars_join_placeholder (h : stripChars raw = raw) :
    stripChars (join placeholder (split raw)) = join placeholder (split raw) := by
  have hs := splits_split raw
  rw [stripChars_eq_self_iff] at h ⊢
  rwa [hs.head?_join_placeholder, hs.getLast?_join_placeholder]

end Template

open Template

/-! ### Dead definitions -/

theorem hasDefinition_singleton [Runtime] (p : StepPattern) (text : String) :
    hasDefinition [p] text = p.accepts (strip text) := by
  simp only [hasDefinition, anyAccepts]
  cases p.accepts (strip text)
  case error => rfl
  case ok b => cases b <;> rfl

theorem StepPattern.exists_accepts_iff [Runtime] {raw : String}
    (h : StepText.isExpression raw.toList = false) : ∃ p, compile raw = .ok p ∧
      ∀ text : String, p.accepts text = .ok true ↔ Fits (split raw.toList) text.toList := by
  have ⟨p, hp, _, _, _, ha⟩ := compile_of_template h
  refine ⟨p, hp, ?_⟩
  intro text
  have ⟨b, hb, hf⟩ := ha text
  rw [hb, Except.ok.injEq, hf]

-- A step is trimmed and a definition is not, so that a template is found for some step if and only
-- if there is nothing to trim off it. Then it is found for the step that is spelled like it, and no
-- report lists such a step, unless one of the placeholders goes over the end of a line.
theorem hasDefinition_iff_trimmed [Runtime] (raw : String)
    (h : StepText.isExpression raw.toList = false) :
    ∃ p, StepPattern.compile raw = .ok p ∧
      ((∃ t, hasDefinition [p] t = .ok true) ↔ strip raw = raw) ∧
      (strip raw = raw → (∀ n, HasPlaceholder raw.toList n → '\n' ∉ n) →
        hasDefinition [p] raw = .ok true ∧
        ∀ patterns refs missing, p ∈ patterns → missingSteps patterns refs = .ok missing →
          ∀ m ∈ missing, m.text ≠ raw) := by
  have ⟨p, hp, ha⟩ := StepPattern.exists_accepts_iff h
  have hs := splits_split raw.toList
  refine ⟨p, hp, ⟨?_, ?_⟩, ?_⟩
  case refine_1 =>
    intro ⟨t, ht⟩
    rw [hasDefinition_singleton, ha] at ht
    exact strip_eq_self_iff.mpr <| stripChars_of_fits ht <| strip_eq_self_iff.mp <| strip_strip t
  case refine_2 =>
    intro hr
    refine ⟨String.ofList (join placeholder (split raw.toList)), ?_⟩
    have ht := stripChars_join_placeholder <| strip_eq_self_iff.mp hr
    rw [hasDefinition_singleton, ha, strip, String.toList_ofList, String.toList_ofList, ht]
    exact fits_join hs.ne_nil (by decide)
  case refine_3 =>
    intro hr hn
    have hraw : p.accepts raw = .ok true := (ha raw).mpr <| hs.fits_self hn
    refine ⟨by rw [hasDefinition_singleton, hr, hraw], ?_⟩
    intro patterns refs missing hp h m hm he
    have hf := accepts_of_mem_missing h hm p hp
    rw [he, hraw] at hf
    contradiction

-- A step that is spelled like the definition is found, and so it is with blanks around it.
theorem hasDefinition_iff_trimmed_pay :
    StepText.isExpression "I pay {sum}".toList = false ∧ strip "I pay {sum}" = "I pay {sum}" ∧
      (∀ n, HasPlaceholder "I pay {sum}".toList n → '\n' ∉ n) ∧
      ∃ p, StepPattern.compile "I pay {sum}" = .ok p ∧
        hasDefinition [p] "I pay {sum}" = .ok true ∧ p ∈ [p] ∧
        missingSteps [p] [⟨" i PAY {sum} ", "f", 1⟩, ⟨"I fly", "f", 2⟩] =
          .ok [⟨"I fly", "f", 2⟩] ∧
        ∀ m ∈ [(⟨"I fly", "f", 2⟩ : StepReference)], m.text ≠ "I pay {sum}" := by
  have hr : StepText.isExpression "I pay {sum}".toList = false := by decide
  have hs : strip "I pay {sum}" = "I pay {sum}" := by decide +kernel
  have hn : ∀ n, HasPlaceholder "I pay {sum}".toList n → '\n' ∉ n := by
    intro n h hm
    exact absurd (h.subset hm) (by decide)
  have ⟨p, hp, _, hf⟩ := hasDefinition_iff_trimmed "I pay {sum}" hr
  have ⟨ht, hm⟩ := hf hs hn
  have hmiss : ∃ p, StepPattern.compile "I pay {sum}" = .ok p ∧
      missingSteps [p] [⟨" i PAY {sum} ", "f", 1⟩, ⟨"I fly", "f", 2⟩] =
        .ok [⟨"I fly", "f", 2⟩] :=
    ⟨_, rfl, by decide +kernel⟩
  have ⟨p', hp', hl⟩ := hmiss
  obtain rfl := Except.ok.inj <| hp.symm.trans hp'
  exact ⟨hr, hs, hn, p, hp, ht, mem_cons_self, hl, hm _ _ _ mem_cons_self hl⟩

end StepCatalog
