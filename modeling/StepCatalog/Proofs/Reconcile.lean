import Mathlib
import StepCatalog.Proofs.Outcome
import StepCatalog.Proofs.Text.Trimming
import StepCatalog.Reconcile

namespace StepCatalog

open List

-- A reference as it is reported.
def StepReference.trimmed (r : StepReference) : StepReference :=
  { r with text := Text.strip r.text }

theorem StepReference.trimmed_trimmed (r : StepReference) : r.trimmed.trimmed = r.trimmed := by
  simp only [trimmed, Text.strip_strip]

/-! ### Verdicts -/

-- There is only one way in which a match can break, so it does not matter which pattern does.
instance : Subsingleton Regex.MatchFault where
  allEq | .reversedGroup, .reversedGroup => rfl

theorem verdict_ext {x y : Except Regex.MatchFault Bool}
    (ht : x = .ok true ↔ y = .ok true) (hf : x = .ok false ↔ y = .ok false) : x = y := by
  rcases x with e | (_ | _) <;> rcases y with e' | (_ | _) <;> simp at ht hf
  case error.error => rw [Subsingleton.elim e e']
  all_goals rfl

section

variable [Runtime]

variable {patterns patterns' : List StepPattern} {refs refs' : List StepReference}

/-! ### Answers -/

theorem exists_accepts_of_anyAccepts (h : anyAccepts text patterns = .ok true) :
    ∃ p ∈ patterns, p.accepts text = .ok true := by
  induction patterns <;> simp only [anyAccepts] at h
  case nil => contradiction
  case cons p rest hi =>
    have ⟨b, hb, h⟩ := bind_eq_ok_iff.mp h
    cases b
    case true => exact ⟨p, List.mem_cons_self, hb⟩
    case false =>
      have ⟨q, hq, ha⟩ := hi h
      exact ⟨q, List.mem_cons_of_mem p hq, ha⟩

theorem anyAccepts_eq_false_iff :
    anyAccepts text patterns = .ok false ↔ ∀ p ∈ patterns, p.accepts text = .ok false := by
  induction patterns <;> simp only [anyAccepts]
  case nil => simp
  case cons p rest hi =>
    rw [bind_eq_ok_iff, List.forall_mem_cons, ← hi]
    constructor
    case mp =>
      intro ⟨b, hb, h⟩
      cases b
      case true => simp [pure_eq_ok_iff] at h
      case false => exact ⟨hb, h⟩
    case mpr => exact fun ⟨hp, h⟩ => ⟨false, hp, h⟩

-- One of the patterns accepts a text and another one has no answer for it.
def Clashes (patterns : List StepPattern) (text : String) : Prop :=
  (∃ p ∈ patterns, p.accepts text = .ok true) ∧ ∃ p ∈ patterns, ∃ e, p.accepts text = .error e

theorem Clashes.congr (h : ∀ p, p ∈ patterns ↔ p ∈ patterns') :
    Clashes patterns text ↔ Clashes patterns' text := by
  simp only [Clashes, h]

theorem exists_breaks_of_anyAccepts (h : anyAccepts text patterns = .error e) :
    ∃ p ∈ patterns, ∃ e, p.accepts text = .error e := by
  induction patterns <;> simp only [anyAccepts] at h
  case nil => contradiction
  case cons p rest hi =>
    cases hp : p.accepts text
    case error e => exact ⟨p, mem_cons_self, e, hp⟩
    case ok b =>
      cases b <;> simp only [hp, bind, Except.bind] at h
      case true => contradiction
      case false =>
        have ⟨q, hq, hb⟩ := hi h
        exact ⟨q, mem_cons_of_mem p hq, hb⟩

theorem anyAccepts_eq_true_iff (hc : ¬Clashes patterns text) :
    anyAccepts text patterns = .ok true ↔ ∃ p ∈ patterns, p.accepts text = .ok true := by
  refine ⟨exists_accepts_of_anyAccepts, ?_⟩
  intro ⟨p, hp, ht⟩
  cases ha : anyAccepts text patterns
  case error e => exact absurd ⟨⟨p, hp, ht⟩, exists_breaks_of_anyAccepts ha⟩ hc
  case ok b =>
    cases b
    case true => rfl
    case false =>
      have hf := anyAccepts_eq_false_iff.mp ha p hp
      simp [ht] at hf

-- Unless they clash, it makes no difference how patterns are ordered or how often they occur.
theorem anyAccepts_congr (h : ∀ p, p ∈ patterns ↔ p ∈ patterns') (hc : ¬Clashes patterns text) :
    anyAccepts text patterns = anyAccepts text patterns' := by
  have hc' : ¬Clashes patterns' text := mt (Clashes.congr h).mpr hc
  refine verdict_ext ?_ ?_
  case refine_1 => simp only [anyAccepts_eq_true_iff hc, anyAccepts_eq_true_iff hc', h]
  case refine_2 => simp only [anyAccepts_eq_false_iff, h]

theorem anyAccepts_append : anyAccepts text (patterns ++ patterns') =
    (do if ← anyAccepts text patterns then return true else anyAccepts text patterns') := by
  induction patterns
  case nil => rfl
  case cons p rest hi =>
    simp only [cons_append, anyAccepts, hi]
    cases p.accepts text
    case error e => rfl
    case ok b => cases b <;> rfl

/-! ### Laws of missing steps -/

theorem missingSteps_cons (patterns : List StepPattern) (r : StepReference)
    (refs : List StepReference) : missingSteps patterns (r :: refs) = (do
      let found ← hasDefinition patterns r.text
      let others ← missingSteps patterns refs
      return if found then others else r.trimmed :: others) :=
  rfl

theorem hasDefinition_append : hasDefinition (patterns ++ patterns') text =
    (do if ← hasDefinition patterns text then return true else hasDefinition patterns' text) :=
  anyAccepts_append

-- The text is trimmed before it is looked up, so nothing changes if it has been trimmed already.
theorem hasDefinition_trimmed (patterns : List StepPattern) (r : StepReference) :
    hasDefinition patterns r.trimmed.text = hasDefinition patterns r.text := by
  simp only [hasDefinition, StepReference.trimmed, Text.strip_strip]

-- A reference is missing when all patterns have an answer for it and none accepts it.
def IsMissing (patterns : List StepPattern) (r : StepReference) : Prop :=
  ∀ p ∈ patterns, p.accepts (Text.strip r.text) = .ok false

instance : DecidablePred (IsMissing patterns) :=
  fun _ => inferInstanceAs <| Decidable (∀ p ∈ _, _ = _)

theorem isMissing_iff : IsMissing patterns r ↔ hasDefinition patterns r.text = .ok false :=
  anyAccepts_eq_false_iff.symm

-- Whenever the search comes to its end, it has found out which references are missing.
theorem missingSteps_eq_ok_iff : missingSteps patterns refs = .ok missing ↔
    (∀ r ∈ refs, ∃ b, hasDefinition patterns r.text = .ok b) ∧
      missing = (refs.filter (IsMissing patterns)).map StepReference.trimmed := by
  induction refs generalizing missing <;> simp only [missingSteps]
  case nil => simp [eq_comm]
  case cons r refs hi =>
    simp only [bind_eq_ok_iff, pure_eq_ok_iff, hi, forall_mem_cons, filter_cons, isMissing_iff]
    constructor
    case mp =>
      intro ⟨b, hb, others, ⟨ho, he⟩, hm⟩
      refine ⟨⟨⟨b, hb⟩, ho⟩, ?_⟩
      cases b <;> simp [hb, ← hm, he, StepReference.trimmed]
    case mpr =>
      intro ⟨⟨⟨b, hb⟩, ho⟩, hm⟩
      refine ⟨b, hb, _, ⟨ho, rfl⟩, ?_⟩
      cases b <;> simp [hb, hm, StepReference.trimmed]

theorem missingSteps_of_answers
    (h : ∀ r ∈ refs, ∀ p ∈ patterns, ∃ b, p.accepts (Text.strip r.text) = .ok b) :
    ∃ missing, missingSteps patterns refs = .ok missing := by
  refine ⟨_, missingSteps_eq_ok_iff.mpr ⟨?_, rfl⟩⟩
  intro r hr
  cases hd : hasDefinition patterns r.text
  case ok b => exact ⟨b, rfl⟩
  case error e =>
    have ⟨p, hp, e, he⟩ := exists_breaks_of_anyAccepts hd
    have ⟨b, hb⟩ := h r hr p hp
    simp [he] at hb

-- The patterns that come first leave only what they do not find to the others.
theorem missingSteps_append_patterns : missingSteps (patterns ++ patterns') refs =
    missingSteps patterns refs >>= missingSteps patterns' := by
  induction refs
  case nil => rfl
  case cons r refs hi =>
    simp only [missingSteps_cons, hasDefinition_append, hi]
    cases hasDefinition patterns r.text
    case error e => rfl
    case ok b =>
      cases missingSteps patterns refs
      case error e =>
        -- The others may have broken at this reference by now, but all breaks are alike.
        cases b
        case true => rfl
        case false =>
          cases hasDefinition patterns' r.text
          case error e' => rw [Subsingleton.elim e e']; rfl
          case ok b' => rfl
      case ok missing =>
        cases b
        case true =>
          show (missingSteps patterns' missing >>= pure) = missingSteps patterns' missing
          exact bind_pure _
        case false =>
          show _ = missingSteps patterns' (r.trimmed :: missing)
          rw [missingSteps_cons, hasDefinition_trimmed, StepReference.trimmed_trimmed]
          rfl

theorem missingSteps_append : missingSteps patterns (refs ++ refs') =
    (do return (← missingSteps patterns refs) ++ (← missingSteps patterns refs')) := by
  induction refs
  case nil =>
    rw [nil_append, show missingSteps patterns [] = .ok [] from rfl]
    cases missingSteps patterns refs' <;> rfl
  case cons r refs hi =>
    simp only [cons_append, missingSteps_cons, hi]
    cases hasDefinition patterns r.text
    case error e => rfl
    case ok b =>
      cases missingSteps patterns refs
      case error e => rfl
      case ok missing =>
        cases missingSteps patterns refs'
        case error e => rfl
        case ok others => cases b <;> rfl

theorem missingSteps_congr (h : ∀ p, p ∈ patterns ↔ p ∈ patterns')
    (hc : ∀ r ∈ refs, ¬Clashes patterns (Text.strip r.text)) :
    missingSteps patterns refs = missingSteps patterns' refs := by
  induction refs
  case nil => rfl
  case cons r refs hi =>
    have ⟨hr, hc⟩ := forall_mem_cons.mp hc
    have hd : hasDefinition patterns r.text = hasDefinition patterns' r.text :=
      anyAccepts_congr h hr
    simp only [missingSteps_cons, hd, hi hc]

-- A report is made of references, in their order, and tells those apart that no pattern accepts.
theorem missingSteps_sublist (h : missingSteps patterns refs = .ok missing) :
    missing <+ refs.map StepReference.trimmed := by
  have ⟨_, hm⟩ := missingSteps_eq_ok_iff.mp h
  exact hm ▸ filter_sublist.map _

theorem accepts_of_mem_missing (h : missingSteps patterns refs = .ok missing) (hm : m ∈ missing) :
    ∀ p ∈ patterns, p.accepts m.text = .ok false := by
  rw [(missingSteps_eq_ok_iff.mp h).2] at hm
  obtain ⟨r, hr, rfl⟩ := mem_map.mp hm
  exact of_decide_eq_true (mem_filter.mp hr).2

theorem exists_accepts_of_not_isMissing (h : missingSteps patterns refs = .ok missing)
    (hr : r ∈ refs) (hm : ¬IsMissing patterns r) :
    ∃ p ∈ patterns, p.accepts (Text.strip r.text) = .ok true := by
  have ⟨ha, _⟩ := missingSteps_eq_ok_iff.mp h
  have ⟨b, hb⟩ := ha r hr
  cases b
  case true  => exact exists_accepts_of_anyAccepts hb
  case false => exact absurd (isMissing_iff.mpr hb) hm

-- More patterns may find more of the references, and never less.
theorem missingSteps_antitone (hp : patterns ⊆ patterns')
    (h : missingSteps patterns refs = .ok missing)
    (h' : missingSteps patterns' refs = .ok missing') : missing' <+ missing := by
  have ⟨_, hm⟩ := missingSteps_eq_ok_iff.mp h
  have ⟨_, hm'⟩ := missingSteps_eq_ok_iff.mp h'
  subst hm hm'
  refine monotone_filter_right refs ?_ |>.map _
  intro r hr
  have hr : IsMissing patterns' r := of_decide_eq_true hr
  exact decide_eq_true fun p h => hr p <| hp h

theorem missingSteps_missing (h : missingSteps patterns refs = .ok missing) :
    missingSteps patterns missing = .ok missing := by
  have ⟨_, hm⟩ := missingSteps_eq_ok_iff.mp h
  have hn : ∀ m ∈ missing, hasDefinition patterns m.text = .ok false ∧ m.trimmed = m := by
    intro m hmem
    have ⟨r, hr, he⟩ := mem_map.mp <| hm ▸ hmem
    have hd := isMissing_iff.mp <| of_decide_eq_true <| mem_filter.mp hr |>.2
    subst he
    exact ⟨hasDefinition_trimmed patterns r |>.trans hd, r.trimmed_trimmed⟩
  refine missingSteps_eq_ok_iff.mpr ⟨fun m hmem => ⟨_, hn m hmem |>.1⟩, ?_⟩
  have hf : missing.filter (IsMissing patterns) = missing :=
    filter_eq_self.mpr fun m hmem => decide_eq_true <| isMissing_iff.mpr (hn m hmem).1
  have ht : missing.map StepReference.trimmed = missing.map id :=
    map_congr_left fun m hmem => hn m hmem |>.2
  rw [hf, ht, map_id]

-- A search among some patterns and then among others is one among all of them, and references can
-- be searched in parts. Unless patterns clash it makes no difference how they are ordered or how
-- often they occur, and if they do, it can only be that one search breaks off and another does not.
theorem missingSteps_laws (patterns more : List StepPattern) (refs refs' : List StepReference) :
    missingSteps (patterns ++ more) refs = missingSteps patterns refs >>= missingSteps more ∧
    missingSteps patterns (refs ++ refs') =
      (do return (← missingSteps patterns refs) ++ (← missingSteps patterns refs')) ∧
    (∀ patterns', (∀ p, p ∈ patterns ↔ p ∈ patterns') →
      ((∀ r ∈ refs, ¬Clashes patterns (Text.strip r.text)) →
        missingSteps patterns refs = missingSteps patterns' refs) ∧
      ∀ missing missing', missingSteps patterns refs = .ok missing →
        missingSteps patterns' refs = .ok missing' → missing = missing') ∧
    ((∀ r ∈ refs, ∀ p ∈ patterns, ∃ b, p.accepts (Text.strip r.text) = .ok b) →
      ∃ missing, missingSteps patterns refs = .ok missing) ∧
    ∀ missing, missingSteps patterns refs = .ok missing →
      missing <+ refs.map StepReference.trimmed ∧
      missing = (refs.filter (IsMissing patterns)).map StepReference.trimmed ∧
      (∀ r ∈ refs, ¬IsMissing patterns r →
        ∃ p ∈ patterns, p.accepts (Text.strip r.text) = .ok true) ∧
      (∀ patterns' missing', patterns ⊆ patterns' →
        missingSteps patterns' refs = .ok missing' → missing' <+ missing) ∧
      missingSteps patterns missing = .ok missing := by
  refine ⟨missingSteps_append_patterns, missingSteps_append, ?_, missingSteps_of_answers, ?_⟩
  case refine_1 =>
    intro patterns' h
    refine ⟨missingSteps_congr h, ?_⟩
    intro _ _ hm hm'
    have hs  := missingSteps_antitone (fun p => (h p).mp) hm hm'
    have hs' := missingSteps_antitone (fun p => (h p).mpr) hm' hm
    exact hs'.antisymm hs
  case refine_2 =>
    intro missing h
    have ⟨_, hm⟩ := missingSteps_eq_ok_iff.mp h
    refine ⟨missingSteps_sublist h, hm, ?_, ?_, missingSteps_missing h⟩
    case refine_1 => exact fun _ => exists_accepts_of_not_isMissing h
    case refine_2 => exact fun _ _ hp => missingSteps_antitone hp h

end

theorem missingSteps_laws_log_in :
    let refs : List StepReference := [⟨" i LOG in ", "f", 1⟩, ⟨"I fly", "f", 2⟩]
    ∃ p q, StepPattern.compile "I log in" = .ok p ∧ StepPattern.compile "I log {x}" = .ok q ∧
      (∀ r, r ∈ [p, q] ↔ r ∈ [q, p, q]) ∧ (∀ r ∈ refs, ¬Clashes [p, q] (Text.strip r.text)) ∧
      missingSteps [q, p, q] refs = .ok [⟨"I fly", "f", 2⟩] ∧
      missingSteps [p, q] refs = missingSteps [q, p, q] refs := by
  intro refs
  have hs : ∃ p q,
      StepPattern.compile "I log in" = .ok p ∧ StepPattern.compile "I log {x}" = .ok q ∧
      (∀ r ∈ refs, ∀ p' ∈ [p, q], (p'.accepts (Text.strip r.text)).isOk) ∧
      missingSteps [q, p, q] refs = .ok [⟨"I fly", "f", 2⟩] :=
    ⟨_, _, rfl, rfl, by decide +kernel, by decide +kernel⟩
  have ⟨p, q, hp, hq, ha, hr⟩ := hs
  have hm : ∀ r, r ∈ [p, q] ↔ r ∈ [q, p, q] := by simp
  have hc : ∀ r ∈ refs, ¬Clashes [p, q] (Text.strip r.text) := by
    intro r hr ⟨_, p', hp', e, he⟩
    have hn := ha r hr p' hp'
    simp [he, Except.isOk, Except.toBool] at hn
  have hl := (missingSteps_laws [p, q] [] refs []).2.2.1 [q, p, q] hm
  exact ⟨p, q, hp, hq, hm, hc, hr, hl.1 hc⟩

-- The one pattern breaks at the text, and the other one accepts it.
theorem not_forall_missingSteps_perm :
    ¬∀ (patterns patterns' : List StepPattern) (refs : List StepReference),
      patterns ~ patterns' → missingSteps patterns refs = missingSteps patterns' refs := by
  let refs : List StepReference := [⟨"xyz", "f", 1⟩]
  have hs : ∃ p q, StepPattern.compile "((x)|y|z)*+" = .ok p ∧ StepPattern.compile "xyz" = .ok q ∧
      missingSteps [p, q] refs = .error .reversedGroup ∧ missingSteps [q, p] refs = .ok [] :=
    ⟨_, _, rfl, rfl, by decide +kernel, by decide +kernel⟩
  intro h
  have ⟨p, q, _, _, he, hm⟩ := hs
  have hpq := h [p, q] [q, p] refs <| .swap ..
  simp [he, hm] at hpq

end StepCatalog
