import Mathlib
import StepCatalog.Proofs.Regex.Deciding
import StepCatalog.Proofs.Template.Reading
import StepCatalog.Proofs.Unicode.SameLetter

namespace StepCatalog

open Template Regex

namespace Template

-- Texts of one length, the same letter in every place.
def SameLetters (s l : List Char) : Prop :=
  List.Forall₂ (fun k c => Unicode.SameLetter k.toNat c.toNat) s l

-- The texts that segments stand for: the segments in turn, in any case, and between each two of
-- them any text on one line.
def Fits : List (List Char) → List Char → Prop
  | [], _ => False
  | [s], t => SameLetters s t
  | s :: rest, t => ∃ l w u, t = l ++ w ++ u ∧ SameLetters s l ∧ '\n' ∉ w ∧ Fits rest u

-- The same, one part at a time.
def Spells : List Part → List Char → Prop
  | [], t => t = []
  | .letter k :: ps, t => ∃ c u, t = c :: u ∧ Unicode.SameLetter k.toNat c.toNat ∧ Spells ps u
  | .gap :: ps, t => ∃ w u, t = w ++ u ∧ '\n' ∉ w ∧ Spells ps u

theorem spells_letters_append_iff {s : List Char} {p : List Part} :
    Spells (s.map .letter ++ p) t ↔ ∃ l u, t = l ++ u ∧ SameLetters s l ∧ Spells p u := by
  induction s generalizing t
  case nil => simp [SameLetters]
  case cons k s hi =>
    simp only [List.map_cons, List.cons_append, Spells, hi]
    constructor
    case mp =>
      rintro ⟨c, _, rfl, hc, l, u, rfl, hl, h⟩
      exact ⟨c :: l, u, rfl, .cons hc hl, h⟩
    case mpr =>
      rintro ⟨_, u, rfl, hs, h⟩
      cases hs
      case cons hc hl => exact ⟨_, _, rfl, hc, _, u, rfl, hl, h⟩

theorem spells_letters_iff {s : List Char} : Spells (s.map .letter) t ↔ SameLetters s t := by
  simpa [Spells] using spells_letters_append_iff (s := s) (t := t) (p := [])

theorem spells_parts_iff (hs : segments ≠ []) : Spells (parts segments) t ↔ Fits segments t := by
  induction segments generalizing t
  case nil => contradiction
  case cons s rest hi =>
    cases rest
    case nil => exact spells_letters_iff
    case cons s' rest =>
      simp only [parts, spells_letters_append_iff, Fits, Spells, hi (List.cons_ne_nil _ _)]
      constructor
      case mp =>
        rintro ⟨l, _, rfl, hl, w, u, rfl, hw, h⟩
        exact ⟨l, w, u, (List.append_assoc ..).symm, hl, hw, h⟩
      case mpr =>
        rintro ⟨l, w, u, rfl, hl, hw, h⟩
        exact ⟨l, w ++ u, List.append_assoc .., hl, w, u, rfl, hw, h⟩

theorem least_le_length (h : Spells ps t) : (ps.map Part.least).sum ≤ t.length := by
  induction ps generalizing t
  case nil => simp
  case cons p ps hi =>
    cases p <;> simp only [Spells] at h
    case letter k =>
      obtain ⟨c, u, rfl, _, h⟩ := h
      have := hi h
      simp only [List.map_cons, List.sum_cons, Part.least, List.length_cons]
      omega
    case gap =>
      obtain ⟨w, u, rfl, _, h⟩ := h
      have := hi h
      simp only [List.map_cons, List.sum_cons, Part.least, List.length_append]
      omega

end Template

/-! ### Matching -/

namespace Regex

variable {text : Array Char}

theorem accepts_any_iff {c : Char} : CharTest.any.accepts stepFlags c.toNat ↔ c ≠ '\n' := by
  have hc : c.toNat = 10 ↔ c = '\n' := Char.toNat_inj (c := c) (d := '\n')
  simp [CharTest.accepts, stepFlags, hc]

-- What is left of the text is spelled by the parts that are left.
def Remains (text : Array Char) (ps : List Part) (p : Nat) : Prop :=
  p ≤ text.size ∧ Spells ps (text.toList.drop p)

theorem remains_nil_iff : Remains text [] p ↔ p = text.size := by
  simp only [Remains, Spells, List.drop_eq_nil_iff, Array.length_toList]
  omega

theorem remains_letter_iff :
    Remains text (.letter k :: ps) p ↔
      hasCharAt text p ((CharTest.literal k.toNat).accepts stepFlags) ∧
        Remains text ps (p + 1) := by
  have ha c : (CharTest.literal k.toNat).accepts stepFlags c ↔ Unicode.SameLetter k.toNat c :=
    Flags.sameChar_iff rfl rfl
  simp only [Remains, Spells, ← ha]
  rw [← hasCharAt_and_iff (f := (CharTest.literal k.toNat).accepts stepFlags) (Q := Spells ps)]
  constructor
  case mp =>
    intro ⟨_, h, hs⟩
    exact ⟨h, lt_size_of_hasCharAt h, hs⟩
  case mpr =>
    intro ⟨h, hp, hs⟩
    exact ⟨by omega, h, hs⟩

theorem remains_gap_iff :
    Remains text (.gap :: ps) p ↔
      ∃ n, (∀ i < n, hasCharAt text (p + i) (CharTest.any.accepts stepFlags)) ∧
        Remains text ps (p + n) := by
  have hw (w : List Char) : '\n' ∉ w ↔ ∀ c ∈ w, CharTest.any.accepts stepFlags c.toNat := by
    simp only [accepts_any_iff]
    exact ⟨fun h c hc he => h (he ▸ hc), fun h hc => h _ hc rfl⟩
  simp only [Remains, Spells, hw]
  rw [← exists_pass_iff (f := CharTest.any.accepts stepFlags) (Q := Spells ps)]
  constructor
  case mp =>
    intro ⟨hp, n, hn, h⟩
    have := le_left_of_hasCharAt hn
    exact ⟨n, hn, by omega, h⟩
  case mpr =>
    intro ⟨n, hn, hp, h⟩
    exact ⟨by omega, n, hn, h⟩

-- The expression for parts that end a template.
def Part.rest (ps : List Part) : Node :=
  .sequence (ps.map Part.node ++ [.anchor .lineEnd])

-- A loop is only left before a character that the part after it asks for, which costs no match.
theorem hasCharAt_of_nextChar? {s : Setting} (hn : s.next.head? = some (stepFlags, Part.rest ps))
    (hc : s.nextChar? = some c) (h : Remains text ps p) : hasCharAt text p (· == c) := by
  have ⟨_, he⟩ := List.head?_eq_some_iff.mp hn
  simp only [Setting.nextChar?, he] at hc
  cases ps
  case nil => simp [Part.rest, Node.sequence, Node.isHollow, Node.firstTest?] at hc
  case cons p ps =>
    cases p
    case gap => simp [Part.rest, Part.node, Node.sequence, Node.isHollow, Node.firstTest?] at hc
    case letter k =>
      simp only [Part.rest, Part.node, Node.sequence, Node.isHollow, Node.firstTest?, List.map_cons,
        List.cons_append, List.foldr_cons, Bool.false_and, List.find?_cons, Bool.not_false,
        Option.bind_eq_bind, Option.bind_some, Bool.false_eq_true, if_false] at hc
      split at hc
      case isTrue => contradiction
      case isFalse hf =>
        cases hc
        simpa [CharTest.accepts, Flags.sameChar, hf] using (remains_letter_iff.mp h).left

-- The end of the whole text is all that is asked for after a template.
theorem decides_end :
    Rest.Decides (fun p r => if p = text.size then .success (r.moveTo p) else .failure r)
      (· = text.size) := by
  intro p r hr
  by_cases h : p = text.size
  case pos => exact ⟨by simp [h, Trial.success], by simp [h, Trial.success, Registers.moveTo, hr]⟩
  case neg => simpa [h] using Rest.Decides.failure hr h

section

variable [Runtime]

theorem decides_rest {s : Setting} (hs : s.flags = stepFlags) (hk : k.Decides (· = text.size))
    (ps : List Part) :
    Rest.Decides (fun p r => (Part.rest ps).run text s p r k) (Remains text ps) := by
  -- The parts after the first one are its continuation, in a setting of their own. By hypothesis
  -- that decides what remains for them, and the lemma for the node of the first part does the rest.
  induction ps generalizing s
  case nil =>
    refine (hk.anchor .lineEnd { s with next := (s.flags, .empty) :: s.next }).congr ?_
    intro p
    rw [remains_nil_iff, and_iff_right_iff_imp]
    intro he
    simp [Anchor.holds, he]
  case cons p ps hi =>
    let s' : Setting := { s with next := (s.flags, Part.rest ps) :: s.next }
    cases p
    case letter c =>
      refine ((hi hs).char (.literal c.toNat) s').congr ?_
      intro p
      rw [remains_letter_iff, ← hs]
    case gap =>
      refine ((hi hs).repeatChar s' 0 none s.flags .any ?_).congr ?_
      case refine_1 =>
        intro c p hc h
        exact hasCharAt_of_nextChar? (by simp [s', hs]) hc h
      case refine_2 =>
        intro p
        simp [remains_gap_iff, hs]

theorem decides_tree (text : Array Char) (hk : k.Decides (· = text.size)) (ps : List Part) :
    Rest.Decides (fun p r => (Part.tree ps).run text { flags := stepFlags } p r k)
      fun p => Anchor.lineStart.holds text stepFlags p ∧ Remains text ps p :=
  (decides_rest (s := { flags := stepFlags }) rfl hk ps).anchor .lineStart
    { flags := stepFlags, next := [(stepFlags, Part.rest ps)] }

theorem Program.fullMatch_template {program : Program} (hn : program.node = Part.tree ps)
    (hf : program.flags = stepFlags) (hl : program.least ≤ (ps.map Part.least).sum)
    (text : List Char) :
    ∃ b, program.fullMatch text = .ok b ∧ (b ↔ Spells ps text) := by
  simp only [fullMatch, hn, hf]
  split
  case isTrue hs =>
    refine ⟨false, rfl, by simp, ?_⟩
    intro h
    have := least_le_length h
    simp only [List.size_toArray] at hs
    omega
  case isFalse =>
    have ⟨hm, hb⟩ := decides_tree text.toArray decides_end ps 0 {} rfl
    dsimp only at hm hb
    refine ⟨_, if_neg ?_, hm.trans ?_⟩
    case refine_1 => rw [Registers.isReversed, hb]; simp [Registers.isReversed.go]
    case refine_2 => simp [Remains, Anchor.holds]

end

end Regex

theorem StepText.exists_program_of_template [Runtime] {raw : List Char}
    (h : isExpression raw = false) :
    ∃ program, Program.ofPattern (source raw) stepFlags = .ok program ∧
      ∀ text, ∃ b, program.fullMatch text = .ok b ∧ (b ↔ Fits (split raw) text) := by
  have hv : stepFlags.verbose = false := rfl
  have ⟨program, hp, hn, hf, hl⟩ := Program.ofPattern_template hv <| parts <| split raw
  refine ⟨program, (source_of_template h) ▸ hp, ?_⟩
  intro text
  have ⟨b, hb, hs⟩ := program.fullMatch_template hn hf hl text
  exact ⟨b, hb, hs.trans <| spells_parts_iff (splits_split raw).ne_nil⟩

theorem StepText.compiles_of_template [Runtime] {raw : List Char} (h : isExpression raw = false) :
    Runtime.compiles (source raw) := by
  rw [source_of_template h]
  exact Runtime.compiles_template _

-- Text that is no regular expression always compiles, and the pattern is asked about any text and
-- accepts just those that its segments stand for.
theorem StepPattern.compile_template_iff [Runtime] (raw : String)
    (h : StepText.isExpression raw.toList = false) :
    ∃ p, compile raw = .ok p ∧
      ∀ text : String, ∃ b, p.accepts text = .ok b ∧ (b ↔ Fits (split raw.toList) text.toList) := by
  have ⟨program, hp, hm⟩ := StepText.exists_program_of_template h
  have hc := StepText.compiles_of_template h
  simp only [compile, hc, hp, Bool.not_true, Bool.false_eq_true, if_false]
  refine ⟨_, rfl, ?_⟩
  intro text
  exact hm text.toList

-- One placeholder at the end stands for any text on one line, the empty one too.
theorem StepPattern.compile_pay :
    StepText.isExpression "pay {sum}".toList = false ∧
      split "pay {sum}".toList = ["pay ".toList, []] ∧
      ∃ p, compile "pay {sum}" = .ok p ∧
        ∀ text : String, ∃ b, p.accepts text = .ok b ∧
          (b ↔ Fits (split "pay {sum}".toList) text.toList) :=
  ⟨by decide, by decide, compile_template_iff "pay {sum}" (by decide)⟩

end StepCatalog
