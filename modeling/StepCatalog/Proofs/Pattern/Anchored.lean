import Mathlib
import StepCatalog.Proofs.Outcome
import StepCatalog.Proofs.Regex.AnchoredTree

namespace StepCatalog

open Regex

namespace Regex

/-! ### Patterns that have been read -/

theorem Token.ofPattern_append (h : ofPattern cs = .ok ts) (hc : c ≠ '\\') :
    ofPattern (cs ++ [c]) = .ok (ts ++ [.plain c]) := by
  induction cs using ofPattern.induct generalizing ts
  case case1 =>
    cases h
    rw [List.nil_append, ofPattern_plain hc]
    rfl
  case case2 => contradiction
  case case3 d cs hi =>
    rw [ofPattern] at h
    cases hs : ofPattern cs <;> rw [hs] at h
    case error => contradiction
    case ok =>
      cases h
      rw [List.cons_append, List.cons_append, ofPattern, hi hs]
      rfl
  case case4 d cs hn hs hi =>
    have hd : d ≠ '\\' := by
      rintro rfl
      cases cs
      case nil => exact hn rfl rfl
      case cons c cs => exact hs c cs rfl rfl
    rw [ofPattern_plain hd] at h
    cases hs : ofPattern cs <;> rw [hs] at h
    case error => contradiction
    case ok =>
      cases h
      rw [List.cons_append, ofPattern_plain hd, hi hs]
      rfl

namespace Reader

variable {st : Reader}

-- Everything that was opened has been closed, and all groups that are tested are there.
structure IsComplete (st : Reader) : Prop where
  openSet : st.openSet = none
  outer : st.outer = []
  tested : ∀ t ∈ st.tested, t.1 < st.groupCount

theorem finish_eq_ok_iff :
    st.finish = .ok n ↔
      st.IsComplete ∧ n = .sequence (Node.ofAlternatives st.frame.alternatives) := by
  have ht : st.tested.find? (fun t => st.groupCount ≤ t.1) = none ↔
      ∀ t ∈ st.tested, t.1 < st.groupCount := by simp
  unfold finish
  split
  case h_1 s _ ho => exact ⟨nofun, fun ⟨hc, _⟩ => nomatch ho.symm.trans hc.openSet⟩
  case h_2 ho => exact ⟨nofun, fun ⟨hc, _⟩ => nomatch ho.symm.trans hc.outer⟩
  case h_3 hs ho =>
    split
    case h_1 hf => exact ⟨nofun, fun ⟨hc, _⟩ => nomatch hf.symm.trans (ht.mpr hc.tested)⟩
    case h_2 hf =>
      constructor
      case mp =>
        rintro ⟨⟩
        exact ⟨⟨hs, ho, ht.mp hf⟩, rfl⟩
      case mpr =>
        rintro ⟨_, rfl⟩
        rfl

end Reader

namespace Program

def ofReader (st : Reader) : Program :=
  let node := .sequence (Node.ofAlternatives st.frame.alternatives)
  ⟨node, st.flags, (node.width st.widthOf).least⟩

theorem ofPattern_eq_ok_iff {fs : Flags} : ofPattern source fs = .ok program ↔
    ∃ ts st, Token.ofPattern source = .ok ts ∧ (Reader.start fs).run 0 ts = .ok st ∧
      st.IsComplete ∧
      checkLookbehinds (.sequence (Node.ofAlternatives st.frame.alternatives)) = .ok () ∧
      program = ofReader st := by
  simp only [ofPattern, bind_eq_ok_iff, pure_eq_ok_iff, Reader.finish_eq_ok_iff]
  constructor
  case mp =>
    rintro ⟨ts, ht, st, hs, _, ⟨hc, rfl⟩, _, hl, rfl⟩
    exact ⟨ts, st, ht, hs, hc, hl, rfl⟩
  case mpr =>
    rintro ⟨ts, st, ht, hs, hc, hl, rfl⟩
    exact ⟨ts, ht, st, hs, _, ⟨hc, rfl⟩, (), hl, rfl⟩

theorem fullMatch_ofReader [Runtime] (h : st.flags = stepFlags) (text : List Char) :
    (ofReader st).fullMatch text =
      answer (Node.leastOf st.widthOf (Node.ofAlternatives st.frame.alternatives)) text.toArray
        stepFlags (found st.frame.alternatives) := by
  have hm : matchWhole text.toArray stepFlags (Node.ofAlternatives st.frame.alternatives) =
      (found st.frame.alternatives).findSome? (matchWhole text.toArray stepFlags) :=
    matchFrom_ofAlternatives Rest.whole_alike rfl rfl st.frame.alternatives_ne_nil 0
  rw [ofReader, fullMatch_sequence, h, hm]
  rfl

end Program

/-! ### Patterns with anchors -/

-- Flags for the whole pattern are set somewhere in it.
def HasGlobalFlags (source : List Char) : Prop :=
  ∃ ts, Token.ofPattern source = .ok ts ∧ (Reader.start stepFlags).MeetsFlags 0 ts

-- Alternatives of one character each are made one character set, and the text has lost its match by
-- that: one of them matches it, but only letters do that are not found in the set.
def MissesLetter [Runtime] (source text : List Char) : Prop :=
  ∃ ts st, Token.ofPattern source = .ok ts ∧ (Reader.start stepFlags).run 0 ts = .ok st ∧
    LosesLetter text.toArray stepFlags st.frame.alternatives

theorem missesLetter_iff [Runtime] {source text : List Char} (ht : Token.ofPattern source = .ok ts)
    (hr : (Reader.start stepFlags).run 0 ts = .ok st) :
    MissesLetter source text ↔ LosesLetter text.toArray stepFlags st.frame.alternatives := by
  constructor
  case mp =>
    rintro ⟨_, _, ht', hr', h⟩
    cases ht.symm.trans ht'
    cases hr.symm.trans hr'
    exact h
  case mpr => exact fun h => ⟨ts, st, ht, hr, h⟩

namespace Anchoring

variable {w : Anchoring} {raw : List Char}

def source (w : Anchoring) (raw : List Char) : List Char :=
  (if w.front then ['^'] else []) ++ raw ++ if w.back then ['$'] else []

-- Only a pattern that begins with an anchor gets none in front.
def Fits (w : Anchoring) (raw : List Char) : Prop := w.front = false → raw.head? = some '^'

theorem isComplete_ending (h : st.IsComplete) : (w.ending st).IsComplete := by
  have hr : (w.reader st).IsComplete := by
    refine ⟨?_, ?_, List.forall_mem_map.mpr h.tested⟩
    case refine_1 => rw [reader, h.openSet]; rfl
    case refine_2 => rw [reader, h.outer]; rfl
  unfold ending
  split
  case isTrue => exact ⟨hr.openSet, hr.outer, hr.tested⟩
  case isFalse => exact hr

theorem flags_ending (st : Reader) : (w.ending st).flags = st.flags := by
  unfold ending
  split <;> rfl

theorem widthOf_ending (st : Reader) : (w.ending st).widthOf = st.widthOf := by
  unfold ending
  split <;> rfl

theorem ofPattern_source (h : Token.ofPattern raw = .ok ts) :
    Token.ofPattern (w.source raw) =
      .ok ((if w.front then [.plain '^'] else []) ++ ts ++ w.tail) := by
  have ht : Token.ofPattern ((if w.front then ['^'] else []) ++ raw) =
      .ok ((if w.front then [.plain '^'] else []) ++ ts) := by
    cases w.front
    case false => exact h
    case true => rw [if_pos rfl, List.singleton_append, Token.ofPattern_plain (by decide), h]; rfl
  unfold source tail
  cases w.back
  case false => simpa using ht
  case true => exact Token.ofPattern_append ht (by decide)

-- What has been read when the anchor in front has been passed over: that of the pattern itself, or
-- the one that is put there.
theorem exists_entry (hw : w.Fits raw) (h : Token.ofPattern raw = .ok ts) :
    ∃ st us, w.Grounded st ∧
      (Reader.start stepFlags).run 0 ts = st.run 0 us ∧
      ((Reader.start stepFlags).MeetsFlags 0 ts ↔ st.MeetsFlags 0 us) ∧
      (Reader.start stepFlags).run 0 ((if w.front then [.plain '^'] else []) ++ ts ++ w.tail) =
        (w.reader st).run 0 (us ++ w.tail) := by
  have hs : (Reader.start stepFlags).IsPlain := Reader.start_isPlain rfl
  cases hf : w.front
  case true =>
    have he : w.reader (.start stepFlags) = (Reader.start stepFlags).push (.anchor .lineStart) := by
      simp [reader, frame, base, hf, Reader.start, Reader.push, Frame.push, frames]
    refine ⟨.start stepFlags, ts, ⟨rfl, rfl, rfl, by simp [hf]⟩, rfl, Iff.rfl, ?_⟩
    rw [if_pos rfl, List.singleton_append, List.cons_append, Reader.run_lineStart hs, he]
  case false =>
    obtain ⟨cs, hcs⟩ := List.head?_eq_some_iff.mp (hw hf)
    rw [hcs, Token.ofPattern_plain (by decide), map_eq_ok_iff] at h
    obtain ⟨us, _, he⟩ := h
    let st := (Reader.start stepFlags).push (.anchor .lineStart)
    have hst : w.reader st = st := by
      simp [st, reader, frame, base, hf, Reader.start, Reader.push, Frame.push, frames]
    refine ⟨st, us, ⟨rfl, rfl, rfl, by simp [st, Reader.push, Frame.push]⟩, ?_, ?_, ?_⟩
    case refine_1 => rw [← he, Reader.run_lineStart hs]
    case refine_2 =>
      have hp : (Reader.start stepFlags).step (.plain '^') us = .ok (st, us) := rfl
      have hg : ¬(Reader.start stepFlags).IsFlagGroup (.plain '^') us :=
        fun hg => absurd hg.parenthesis (by decide)
      rw [← he, Reader.MeetsFlags, hp]
      simp only [hg, false_or, Nat.sub_self]
    case refine_3 =>
      rw [← he, hst]
      exact Reader.run_lineStart hs _

theorem ofPattern_source_of_flags (hw : w.Fits raw)
    (hp : Program.ofPattern raw stepFlags = .ok plain) (hf : HasGlobalFlags raw) :
    ∃ e, Program.ofPattern (w.source raw) stepFlags = .error e := by
  have ⟨ts, st', ht, hr, hc, _⟩ := Program.ofPattern_eq_ok_iff.mp hp
  have ⟨ts', ht', hm⟩ := hf
  cases ht.symm.trans ht'
  have ⟨st, us, hg, hu, hmu, hs⟩ := exists_entry hw ht
  have ⟨_, e, he⟩ :=
    Reader.run_lifts_of_meetsFlags hg (Nat.zero_le _) (hmu.mp hm) (hu ▸ hr) hc.outer
  cases ha : Program.ofPattern (w.source raw) stepFlags
  case error e => exact ⟨e, rfl⟩
  case ok =>
    have ⟨_, _, ha, hra, _⟩ := Program.ofPattern_eq_ok_iff.mp ha
    cases ha.symm.trans (ofPattern_source ht)
    rw [hs, he] at hra
    contradiction

theorem exists_program [Runtime] (hw : w.Fits raw)
    (hp : Program.ofPattern raw stepFlags = .ok plain) (hf : ¬HasGlobalFlags raw) :
    ∃ program, Program.ofPattern (w.source raw) stepFlags = .ok program ∧
      ∀ text, program.fullMatch text = plain.fullMatch text ↔
        (MissesLetter raw text ↔ MissesLetter (w.source raw) text) := by
  have ⟨ts, st', ht, hr, hc, hl, he⟩ := Program.ofPattern_eq_ok_iff.mp hp
  have ⟨st, us, hg, hu, hmu, hs⟩ := exists_entry hw ht
  have hm : ¬st.MeetsFlags 0 us := fun hm => hf ⟨ts, ht, hmu.mpr hm⟩
  have ⟨hg', hra⟩ := Reader.run_lifts hg (Nat.zero_le _) hm (hu ▸ hr) hc.outer
  rw [← hs, run_tail hg' hc.openSet hc.outer] at hra
  have ha := ofPattern_source (w := w) ht
  have has := alternatives_ending (w := w) hc.outer
  have hn := st'.frame.alternatives_ne_nil
  refine ⟨.ofReader (w.ending st'), ?_, ?_⟩
  case refine_1 =>
    refine Program.ofPattern_eq_ok_iff.mpr ⟨_, _, ha, hra, ?_, ?_, rfl⟩
    case refine_1 => exact isComplete_ending hc
    case refine_2 => rw [has, checkLookbehinds_alternatives, hl]
  case refine_2 =>
    intro text
    have hfa : (w.ending st').flags = stepFlags := (flags_ending st').trans hg'.flags
    rw [he, Program.fullMatch_ofReader hg'.flags, Program.fullMatch_ofReader hfa,
      missesLetter_iff ht hr, missesLetter_iff ha hra, has, widthOf_ending, leastOf_alternatives hn]
    rw [eq_comm]
    refine Program.answer_found_eq_iff st'.widthOf (map_matchWhole_alternatives ..).symm ?_ ?_
    case refine_1 => exact (Node.le_leastOf_ofAlternatives_iff hn).mp le_rfl
    case refine_2 =>
      rw [← leastOf_alternatives hn]
      exact (Node.le_leastOf_ofAlternatives_iff <| alternatives_ne_nil hn).mp le_rfl

end Anchoring

end Regex

namespace StepText

theorem exists_anchoring (raw : List Char) :
    ∃ w : Anchoring, w.Fits raw ∧ anchored raw = w.source raw := by
  let opened := if raw.head? = some '^' then raw else '^' :: raw
  refine ⟨⟨raw.head? ≠ some '^', opened.getLast? ≠ some '$'⟩, ?_, ?_⟩
  case refine_1 => simp [Anchoring.Fits]
  case refine_2 =>
    have ho : (if raw.head? ≠ some '^' then ['^'] else []) ++ raw = opened := by
      by_cases h : raw.head? = some '^' <;> simp [opened, h]
    simp only [Anchoring.source, decide_eq_true_eq, ho]
    show (if opened.getLast? = some '$' then opened else opened ++ ['$']) = _
    by_cases h : opened.getLast? = some '$' <;> simp [h]

end StepText

namespace StepPattern

theorem compile_expression_eq_ok_iff [Runtime] {raw : String}
    (h : StepText.isExpression raw.toList) :
    compile raw = .ok p ↔ Runtime.compiles (StepText.anchored raw.toList) ∧
      ∃ program, Program.ofPattern (StepText.anchored raw.toList) stepFlags = .ok program ∧
        p = ⟨raw, String.ofList (StepText.anchored raw.toList), program, []⟩ := by
  simp only [compile, StepText.source, h, if_true]
  cases Runtime.compiles (StepText.anchored raw.toList)
  case false => simp
  case true =>
    cases Program.ofPattern (StepText.anchored raw.toList) stepFlags <;> simp [eq_comm]

-- A regular expression that is valid by itself compiles if no flags are set for the whole of it and
-- the stack is enough for it. The anchors make no difference to a text then, unless it is matched
-- but for a letter that is lost where alternatives are made one set, and either only with the anchors
-- or only without them.
theorem accepts_eq_fullMatch_iff [Runtime] (raw : String) (plain : Program)
    (h : StepText.isExpression raw.toList)
    (hp : Program.ofPattern raw.toList stepFlags = .ok plain) :
    ((∃ p, compile raw = .ok p) ↔
      ¬HasGlobalFlags raw.toList ∧ Runtime.compiles (StepText.anchored raw.toList)) ∧
      ∀ p, compile raw = .ok p → ∀ text : String,
        (p.accepts text = plain.fullMatch text.toList ↔
          (MissesLetter raw.toList text.toList ↔
            MissesLetter (StepText.anchored raw.toList) text.toList)) := by
  have ⟨w, hw, ha⟩ := StepText.exists_anchoring raw.toList
  simp only [compile_expression_eq_ok_iff h, ha]
  have hf : HasGlobalFlags raw.toList →
      ∀ program, Program.ofPattern (w.source raw.toList) stepFlags ≠ .ok program := by
    intro hf program hq
    have ⟨_, he⟩ := Anchoring.ofPattern_source_of_flags hw hp hf
    exact nomatch he.symm.trans hq
  refine ⟨⟨?_, ?_⟩, ?_⟩
  case refine_1 =>
    rintro ⟨_, hc, program, hq, _⟩
    exact ⟨fun hg => hf hg program hq, hc⟩
  case refine_2 =>
    rintro ⟨hg, hc⟩
    have ⟨program, hq, _⟩ := Anchoring.exists_program hw hp hg
    exact ⟨_, hc, program, hq, rfl⟩
  case refine_3 =>
    rintro _ ⟨_, program, hq, rfl⟩ text
    have ⟨_, hq', he⟩ := Anchoring.exists_program hw hp fun hg => hf hg program hq
    cases hq.symm.trans hq'
    exact he text.toList

-- The anchors go to one alternative each, and the groups that a match has noted stay the same.
theorem accepts_eq_fullMatch_choice :
    StepText.isExpression "a (b)|\\d".toList ∧
      ∃ plain, Program.ofPattern "a (b)|\\d".toList stepFlags = .ok plain ∧
        ∃ p, compile "a (b)|\\d" = .ok p ∧
          ∀ text : String, p.accepts text = plain.fullMatch text.toList := by
  have hm (text : List Char) : ¬MissesLetter "a (b)|\\d".toList text :=
    (missesLetter_iff rfl rfl).not.mpr fun h => absurd (isMerged_of_losesLetter h) (by decide)
  have ha (text : List Char) : ¬MissesLetter (StepText.anchored "a (b)|\\d".toList) text :=
    (missesLetter_iff rfl rfl).not.mpr fun h => absurd (isMerged_of_losesLetter h) (by decide)
  have hr := (accepts_eq_fullMatch_iff "a (b)|\\d" _ (by decide) rfl).right _ rfl
  exact ⟨by decide, _, rfl, _, rfl, fun text => (hr text).mpr <| iff_of_false (hm _) (ha _)⟩

-- Two alternatives of one character each are one set, in which a capital letter beyond the first
-- plane is lost. With the anchors they are no single characters any more, and it is found.
theorem not_forall_accepts_iff_fullMatch :
    ¬∀ (raw : String) (plain : Program), StepText.isExpression raw.toList →
      Program.ofPattern raw.toList stepFlags = .ok plain →
        ((∃ p, compile raw = .ok p) ↔ ¬HasGlobalFlags raw.toList) ∧
          ∀ p, compile raw = .ok p → ∀ text : String,
            p.accepts text = .ok true ↔ plain.fullMatch text.toList = .ok true := by
  intro h
  have hm := (h "\\U00010400|b" _ (by decide) rfl).right _ rfl "𐐀"
  exact absurd (hm.mp (by decide +kernel)) (by decide +kernel)

end StepPattern

end StepCatalog
