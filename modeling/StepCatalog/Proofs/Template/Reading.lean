import Mathlib
import StepCatalog.Runtime
import StepCatalog.Proofs.Template.Parts

namespace StepCatalog

open Template Regex

namespace Template.Part

def tokens : Part → List Token
  | letter c => [if c ∈ specialChars then .escaped c else .plain c]
  | gap => [.plain '.', .plain '*']

def node : Part → Node
  | letter c => .char (.literal c.toNat)
  | gap => .loop ⟨0, none, .greedy⟩ (.sequence [.char .any])

-- The least number of characters that a part stands for.
def least : Part → Nat
  | letter _ => 1
  | gap => 0

-- The tree of a whole template.
def tree (ps : List Part) : Node :=
  .sequence (.anchor .lineStart :: ps.map node ++ [.anchor .lineEnd])

end Template.Part

/-! ### Tokens -/

namespace Regex.Token

theorem ofPattern_plain {c : Char} (h : c ≠ '\\') (cs : List Char) :
    ofPattern (c :: cs) = (ofPattern cs).map (plain c :: ·) := by
  simp [ofPattern, h]

theorem ofPattern_part (p : Part) (cs : List Char) :
    ofPattern (p.chars ++ cs) = (ofPattern cs).map (p.tokens ++ ·) := by
  cases p
  case letter c =>
    simp only [Part.chars, Part.tokens, escapeChar]
    split
    case isTrue => rfl
    case isFalse h =>
      have hc : c ≠ '\\' := by rintro rfl; exact h (by decide)
      exact ofPattern_plain hc cs
  case gap =>
    simp only [Part.chars, Part.tokens, wildcard, List.cons_append, List.nil_append]
    rw [ofPattern_plain (by decide), ofPattern_plain (by decide)]
    cases ofPattern cs <;> rfl

theorem ofPattern_parts (ps : List Part) (cs : List Char) :
    ofPattern (ps.flatMap Part.chars ++ cs) = (ofPattern cs).map (ps.flatMap Part.tokens ++ ·) := by
  induction ps
  case nil => cases h : ofPattern cs <;> simp [h, Except.map]
  case cons p ps hi =>
    rw [List.flatMap_cons, List.append_assoc, ofPattern_part, hi]
    cases ofPattern cs <;> simp [Except.map]

theorem ofPattern_template (ps : List Part) :
    ofPattern ('^' :: ps.flatMap Part.chars ++ ['$']) =
      .ok (.plain '^' :: ps.flatMap Part.tokens ++ [.plain '$']) := by
  rw [List.cons_append, ofPattern_plain (by decide), ofPattern_parts]
  rfl

theorem notMem_tokens {c : Char} (hs : c ∈ specialChars) (hd : c ≠ '.') (ha : c ≠ '*') (p : Part) :
    plain c ∉ p.tokens := by
  cases p
  case letter k =>
    simp only [Part.tokens]
    split
    case isTrue => simp
    case isFalse hk =>
      have hc : c ≠ k := by rintro rfl; exact hk hs
      simpa using hc
  case gap => simp [Part.tokens, hd, ha]

end Regex.Token

/-! ### Reading -/

namespace Regex.Reader

-- The reader is inside no set, and blanks count.
structure IsPlain (st : Reader) : Prop where
  openSet : st.openSet = none
  verbose : st.frame.verbose = false

theorem IsPlain.push {st : Reader} (h : st.IsPlain) (n : Node) : (st.push n).IsPlain where
  openSet := h.openSet
  verbose := h.verbose

theorem run_of_step {st st' : Reader} {t : Token} {ts : List Token}
    (h : st.step t ts = .ok (st', ts)) : st.run 0 (t :: ts) = st'.run 0 ts := by
  simp [run, h]

theorem readEscape_special {c : Char} (h : c ∈ specialChars) (st : Reader) (ts : List Token) :
    st.readEscape c ts = .ok (st.push (.char (.literal c.toNat)), ts) := by
  simp only [specialChars, List.mem_cons, List.not_mem_nil, or_false] at h
  rcases h with rfl | rfl | rfl | rfl | rfl | rfl | rfl | rfl | rfl | rfl | rfl | rfl | rfl | rfl |
    rfl | rfl | rfl | rfl | rfl | rfl | rfl | rfl | rfl | rfl <;> rfl

theorem stepPlain_of_not_special {c : Char} (h : c ∉ specialChars) (st : Reader) (ts : List Token) :
    st.stepPlain c ts = .ok (st.push (.char (.literal c.toNat)), ts) := by
  unfold stepPlain
  split
  case h_12 => rfl
  all_goals exact absurd (by decide) h

theorem run_letter {st : Reader} (h : st.IsPlain) (c : Char) (ts : List Token) :
    st.run 0 ((Part.letter c).tokens ++ ts) = (st.push (Part.letter c).node).run 0 ts := by
  apply run_of_step
  simp only [step, h.openSet]
  by_cases hc : c ∈ specialChars
  case pos => simp [hc, readEscape_special hc, Part.node]
  case neg => simp [hc, h.verbose, stepPlain_of_not_special hc, Part.node]

-- A star is a loop of its own unless a sign for another greed follows it.
theorem run_gap {st : Reader} (h : st.IsPlain) (hg : readGreed ts = (.greedy, ts)) :
    st.run 0 (Part.gap.tokens ++ ts) = (st.push Part.gap.node).run 0 ts := by
  have hd : st.step (.plain '.') (.plain '*' :: ts) =
      .ok (st.push (.char .any), .plain '*' :: ts) := by
    simp [step, stepPlain, h.openSet, h.verbose]
  have hs : (st.push (.char .any)).step (.plain '*') ts = .ok (st.push Part.gap.node, ts) := by
    simp [step, stepPlain, push, Frame.push, h.openSet, h.verbose, isPatternBlank, repeatLast, hg,
      Piece.isItem, Piece.nodes, Node.isAnchor, Node.isLoop, Part.node]
  rw [Part.tokens, List.cons_append, List.cons_append, List.nil_append, run_of_step hd,
    run_of_step hs]

theorem readGreed_parts (ps : List Part) (hg : readGreed ts = (.greedy, ts)) :
    readGreed (ps.flatMap Part.tokens ++ ts) = (.greedy, ps.flatMap Part.tokens ++ ts) := by
  cases ps
  case nil => exact hg
  case cons p ps =>
    cases p
    case gap => rfl
    case letter c =>
      by_cases hc : c ∈ specialChars
      case pos => simp [Part.tokens, hc, readGreed]
      case neg =>
        simp only [Part.tokens, hc, if_false, List.flatMap_cons, List.cons_append, readGreed]
        split
        case h_3 => rfl
        all_goals simp_all [specialChars]

def pushAll (st : Reader) (ns : List Node) : Reader :=
  ns.foldl push st

theorem pushAll_cons (st : Reader) (n : Node) (ns : List Node) :
    st.pushAll (n :: ns) = (st.push n).pushAll ns :=
  rfl

theorem IsPlain.pushAll {st : Reader} (h : st.IsPlain) (ns : List Node) :
    (st.pushAll ns).IsPlain := by
  induction ns generalizing st
  case nil => exact h
  case cons n ns hi => exact hi (h.push n)

theorem pushAll_eq (st : Reader) (ns : List Node) :
    st.pushAll ns =
      { st with frame.pieces := (ns.map Piece.item).reverse ++ st.frame.pieces } := by
  induction ns generalizing st
  case nil => simp [pushAll]
  case cons n ns hi =>
    rw [pushAll_cons, hi]
    simp [push, Frame.push]

theorem run_parts {st : Reader} (h : st.IsPlain) (ps : List Part)
    (hg : readGreed ts = (.greedy, ts)) :
    st.run 0 (ps.flatMap Part.tokens ++ ts) = (st.pushAll (ps.map Part.node)).run 0 ts := by
  induction ps generalizing st
  case nil => rfl
  case cons p ps hi =>
    rw [List.flatMap_cons, List.append_assoc, List.map_cons, pushAll_cons, ← hi (h.push p.node)]
    cases p
    case letter c => exact run_letter h c _
    case gap => exact run_gap h (readGreed_parts ps hg)

theorem start_isPlain {flags : Flags} (h : flags.verbose = false) : (start flags).IsPlain where
  openSet := rfl
  verbose := h

theorem run_lineStart {st : Reader} (h : st.IsPlain) (ts : List Token) :
    st.run 0 (.plain '^' :: ts) = (st.push (.anchor .lineStart)).run 0 ts :=
  run_of_step <| by simp [step, stepPlain, h.openSet, h.verbose]

theorem run_lineEnd {st : Reader} (h : st.IsPlain) (ts : List Token) :
    st.run 0 (.plain '$' :: ts) = (st.push (.anchor .lineEnd)).run 0 ts :=
  run_of_step <| by simp [step, stepPlain, h.openSet, h.verbose]

-- All of a template's expression is read into the one frame that there is.
theorem run_template {flags : Flags} (h : flags.verbose = false) (ps : List Part) :
    (start flags).run 0 (.plain '^' :: ps.flatMap Part.tokens ++ [.plain '$']) =
      .ok ((start flags).pushAll
        (.anchor .lineStart :: ps.map Part.node ++ [.anchor .lineEnd])) := by
  have hs := (start_isPlain h).push (.anchor .lineStart)
  rw [List.cons_append, run_lineStart (start_isPlain h), run_parts hs ps rfl,
    run_lineEnd (hs.pushAll _)]
  simp [run, pushAll]

theorem finish_pushAll_start (flags : Flags) (ns : List Node) :
    ((start flags).pushAll ns).finish = .ok (.sequence ns) := by
  simp [pushAll_eq, finish, start, Frame.body, Frame.current, Node.ofAlternatives, List.flatMap_map,
    Piece.nodes]

end Regex.Reader

/-! ### The tree -/

namespace Regex.Node

theorem lookbehinds_sequence (ns : List Node) :
    (sequence ns).lookbehinds = ns.flatMap lookbehinds := by
  induction ns
  case nil => rfl
  case cons n ns hi => simpa [sequence, lookbehinds] using hi

theorem least_sequence_le (groups : Nat → Width) (ns : List Node) :
    ((sequence ns).width groups).least ≤ (ns.map fun n => (n.width groups).least).sum := by
  induction ns
  case nil => simp [sequence, width]
  case cons n ns hi =>
    simp only [sequence, List.foldr_cons, width, Width.add, Width.capped, List.map_cons,
      List.sum_cons] at hi ⊢
    omega

end Regex.Node

namespace Template.Part

theorem lookbehinds_node (p : Part) : p.node.lookbehinds = [] := by
  cases p <;> rfl

theorem least_node (groups : Nat → Width) (p : Part) : (p.node.width groups).least ≤ p.least := by
  cases p <;> simp [node, least, Node.sequence, Node.width, Width.times, Width.capped]

theorem lookbehinds_tree (ps : List Part) : (tree ps).lookbehinds = [] := by
  simp [tree, Node.lookbehinds_sequence, Node.lookbehinds, lookbehinds_node, List.flatMap_map]

theorem least_tree (groups : Nat → Width) (ps : List Part) :
    ((tree ps).width groups).least ≤ (ps.map least).sum := by
  refine Nat.le_trans (Node.least_sequence_le groups _) ?_
  simp only [List.cons_append, List.map_cons, List.map_append, List.map_nil, List.sum_cons,
    List.sum_append, List.sum_nil, Node.width, Nat.zero_add, Nat.add_zero]
  induction ps
  case nil => simp
  case cons p ps hi =>
    have := p.least_node groups
    simp only [List.map_cons, List.sum_cons]
    omega

end Template.Part

-- A template always compiles: its tree is the tree of its parts, and no text is turned down for
-- being too short that has a character for every letter.
theorem Regex.Program.ofPattern_template {flags : Flags} (h : flags.verbose = false)
    (ps : List Part) :
    ∃ program, ofPattern ('^' :: ps.flatMap Part.chars ++ ['$']) flags = .ok program ∧
      program.node = Part.tree ps ∧ program.flags = flags ∧
      program.least ≤ (ps.map Part.least).sum := by
  let ns := Node.anchor .lineStart :: ps.map Part.node ++ [.anchor .lineEnd]
  let st := (Reader.start flags).pushAll ns
  have hr : (Reader.start flags).run 0 (.plain '^' :: ps.flatMap Part.tokens ++ [.plain '$']) =
      .ok st := Reader.run_template h ps
  have hf : st.finish = .ok (Part.tree ps) := Reader.finish_pushAll_start flags ns
  have hl : checkLookbehinds (Part.tree ps) = .ok () := by
    simp [checkLookbehinds, Part.lookbehinds_tree]
  have hs : st.flags = flags := by
    simp [st, Reader.pushAll_eq, Reader.start]
  refine ⟨⟨Part.tree ps, flags, ((Part.tree ps).width st.widthOf).least⟩, ?_, rfl, rfl,
    Part.least_tree _ ps⟩
  simp only [ofPattern, bind, Except.bind, pure, Except.pure, Token.ofPattern_template, hr,
    hf, hl, hs]

-- No stack is too small for it, since no group is opened.
theorem Runtime.compiles_template [Runtime] (ps : List Part) :
    Runtime.compiles ('^' :: ps.flatMap Part.chars ++ ['$']) := by
  refine Runtime.compiles_of_not_mem _ (Token.ofPattern_template ps) ?_
  have hp (p : Part) : .plain '(' ∉ p.tokens :=
    Token.notMem_tokens (by decide) (by decide) (by decide) p
  simp [hp]

end StepCatalog
