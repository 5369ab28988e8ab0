import Mathlib
import StepCatalog.Proofs.Regex.Alternatives
import StepCatalog.Proofs.Regex.AnchoredRun
import StepCatalog.Proofs.Template.Reading

namespace StepCatalog.Regex

/-! ### Alternatives within anchors -/

-- The last of several alternatives ends at the end of a line.
def closeLast : List (List Node) → List (List Node)
  | [] => []
  | [a] => [a ++ [.anchor .lineEnd]]
  | a :: b :: rest => a :: closeLast (b :: rest)

theorem closeLast_append (as : List (List Node)) (a : List Node) :
    closeLast (as ++ [a]) = as ++ [a ++ [.anchor .lineEnd]] := by
  induction as
  case nil => rfl
  case cons b as hi =>
    cases as
    case nil => rfl
    case cons => exact congrArg _ hi

def Frame.alternatives (f : Frame) : List (List Node) := f.done.reverse ++ [f.current]

theorem Frame.alternatives_ne_nil (f : Frame) : f.alternatives ≠ [] := by
  simp [alternatives]

namespace Anchoring

variable {w : Anchoring}

def alternatives (w : Anchoring) (as : List (List Node)) : List (List Node) :=
  let opened := if w.front then openFirst as else as
  if w.back then closeLast opened else opened

-- What does not tell alternatives with an anchor from those without one makes no difference
-- between them.
theorem map_alternatives {φ : List Node → β} (hs : ∀ a, φ (.anchor .lineStart :: a) = φ a)
    (he : ∀ a, φ (a ++ [.anchor .lineEnd]) = φ a) (as : List (List Node)) :
    (w.alternatives as).map φ = as.map φ := by
  have ho : (openFirst as).map φ = as.map φ := by
    cases as
    case nil => rfl
    case cons => simp [openFirst, hs]
  have hc (as : List (List Node)) : (closeLast as).map φ = as.map φ := by
    cases as using List.reverseRecOn
    case nil => rfl
    case append_singleton => simp [closeLast_append, he]
  unfold alternatives
  split <;> split <;> simp [ho, hc]

theorem alternatives_ne_nil (h : as ≠ []) : w.alternatives as ≠ [] := by
  intro hn
  have hm := map_alternatives (w := w) (φ := fun _ => ()) (fun _ => rfl) (fun _ => rfl) as
  rw [hn] at hm
  exact h <| List.map_eq_nil_iff.mp hm.symm

theorem alternatives_base (f : Frame) : (w.base f).alternatives =
    if w.front then openFirst f.alternatives else f.alternatives := by
  unfold base Frame.alternatives
  cases hw : w.front
  case false => rfl
  case true =>
    simp only [Bool.true_eq_false, if_false, if_true]
    split
    case isTrue hd => simp [hd, openFirst, Frame.current, Piece.nodes]
    case isFalse hd =>
      have hr : f.done.reverse ≠ [] := by simpa using hd
      simp [openFirst_append hr, Frame.current]

theorem alternatives_push_lineEnd (f : Frame) :
    (f.push (.item (.anchor .lineEnd))).alternatives = closeLast f.alternatives := by
  simp [Frame.alternatives, Frame.push, Frame.current, Piece.nodes, closeLast_append]

-- What is left to read once the pattern has been read.
def ending (w : Anchoring) (st : Reader) : Reader :=
  if w.back then (w.reader st).push (.anchor .lineEnd) else w.reader st

theorem run_tail (h : w.Grounded st) (hs : st.openSet = none) (ho : st.outer = []) :
    (w.reader st).run 0 w.tail = .ok (w.ending st) := by
  have hp : (w.reader st).IsPlain := by
    refine ⟨by rw [reader, hs]; rfl, ?_⟩
    have hb := h.stands
    rw [ho] at hb
    rw [reader_verbose, hb.verbose]
  unfold tail ending
  split
  case isTrue => rw [Reader.run_lineEnd hp]; rfl
  case isFalse => rfl

theorem alternatives_ending (ho : st.outer = []) :
    (w.ending st).frame.alternatives = w.alternatives st.frame.alternatives := by
  unfold ending alternatives
  rw [← alternatives_base, ← reader_frame_of_nil ho]
  split
  case isTrue => exact alternatives_push_lineEnd _
  case isFalse => rfl

end Anchoring

/-! ### Matching within anchors -/

variable {text : Array Char} {fs : Flags}

-- The whole of the text has been matched.
def Rest.whole (text : Array Char) : Rest := fun p r =>
  if p = text.size then .success (r.moveTo p) else .failure r

theorem Rest.whole_alike : (Rest.whole text).Alike (Rest.whole text) := by
  intro p r r' h
  unfold whole
  split
  case isTrue => exact ⟨rfl, h⟩
  case isFalse => exact .failure h

namespace Node

theorem isHollow_append (a b : List Node) :
    (sequence (a ++ b)).isHollow = ((sequence a).isHollow && (sequence b).isHollow) := by
  induction a
  case nil => rfl
  case cons n a hi =>
    show (n.isHollow && (sequence (a ++ b)).isHollow) = (n.isHollow && (sequence a).isHollow && _)
    rw [hi, Bool.and_assoc]

theorem firstTest?_append (a b : List Node) (fs : Flags) :
    (sequence (a ++ b)).firstTest? fs =
      if (sequence a).isHollow then (sequence b).firstTest? fs
      else (sequence a).firstTest? fs := by
  induction a
  case nil => rfl
  case cons n a hi =>
    show (if n.isHollow then (sequence (a ++ b)).firstTest? fs else _) =
      if n.isHollow && (sequence a).isHollow then _
      else if n.isHollow then (sequence a).firstTest? fs else _
    cases n.isHollow
    case false => rfl
    case true => exact hi

end Node

-- An anchor at the end asks for no character.
theorem Setting.nextChar?_lineEnd (fs : Flags) (a : List Node) (s : Setting) (hs : s.next = []) :
    nextChar? { s with next := (fs, .sequence (a ++ [.anchor .lineEnd])) :: s.next } =
      nextChar? { s with next := (fs, .sequence a) :: s.next } := by
  have hl : (Node.sequence [.anchor .lineEnd]).isHollow = false := rfl
  have hf (fs : Flags) : (Node.sequence [.anchor .lineEnd]).firstTest? fs = none := rfl
  cases ha : (Node.sequence a).isHollow
  case false =>
    simp [nextChar?, Node.isHollow_append, Node.firstTest?_append, ha]
  case true =>
    simp [nextChar?, Node.isHollow_append, Node.firstTest?_append, ha, hl, hf, hs]

theorem run_lineEnd [Runtime] (hs : s.next = []) (a : List Node) (p : Nat) (r : Registers) :
    (Node.sequence (a ++ [.anchor .lineEnd])).run text s p r (Rest.whole text) =
      (Node.sequence a).run text s p r (Rest.whole text) := by
  induction a generalizing p r
  case nil =>
    show (if Anchor.lineEnd.holds text s.flags p then Rest.whole text p r else .failure r) =
      Rest.whole text p r
    unfold Rest.whole
    split
    case isTrue => rfl
    case isFalse h =>
      split
      case isTrue hp => simp [Anchor.holds, hp] at h
      case isFalse => rfl
  case cons n a hi =>
    -- A loop in the first node is left with a view to what comes next, which is not the same node
    -- here, but asks for the same character.
    have ha : Setting.Agrees
        { s with next := (s.flags, .sequence (a ++ [.anchor .lineEnd])) :: s.next }
        { s with next := (s.flags, .sequence a) :: s.next } :=
      ⟨rfl, rfl, Setting.nextChar?_lineEnd s.flags a s hs⟩
    show n.run text _ p r (fun p r => (Node.sequence (a ++ _)).run text s p r _) =
      n.run text _ p r (fun p r => (Node.sequence a).run text s p r _)
    simp only [hi]
    exact congrArg (fun m : Move => m p r _) (n.run_congr ha)

section

variable [Runtime]

-- What is noted where nodes match the whole of the text.
def matchWhole (text : Array Char) (fs : Flags) (nodes : List Node) : Option (List (Option Nat)) :=
  matchFrom text fs (Rest.whole text) 0 nodes

theorem matchWhole_lineStart (text : Array Char) (fs : Flags) (a : List Node) :
    matchWhole text fs (.anchor .lineStart :: a) = matchWhole text fs a := by
  rfl

theorem matchWhole_lineEnd (text : Array Char) (fs : Flags) (a : List Node) :
    matchWhole text fs (a ++ [.anchor .lineEnd]) = matchWhole text fs a := by
  unfold matchWhole matchFrom
  rw [run_lineEnd rfl]

-- Flat nodes note nothing, and match no less than they are wide.
theorem matchFrom_whole_of_isFlat (hn : ∀ n ∈ nodes, n.isFlat)
    (h : matchFrom text fs (Rest.whole text) p nodes = some bounds) :
    bounds = [] ∧ ∀ groups, p + Node.leastOf groups nodes ≤ text.size := by
  induction nodes generalizing p
  case nil =>
    replace h : (Rest.whole text p {}).match? = some bounds := h
    unfold Rest.whole at h
    split at h
    case isTrue hp =>
      cases h
      exact ⟨rfl, fun _ => hp.le⟩
    case isFalse => contradiction
  case cons n nodes hi =>
    have ⟨hf, hn⟩ := List.forall_mem_cons.mp hn
    have ⟨o, ho, hs⟩ := matchFrom_cons hf text fs p
    rw [hs] at h
    obtain ⟨q, rfl, h⟩ := Option.bind_eq_some_iff.mp h
    have ⟨hb, hq⟩ := hi hn h
    refine ⟨hb, fun groups => ?_⟩
    have hc := Node.le_leastOf_cons_iff.mp <| Nat.le_refl <| Node.leastOf groups (n :: nodes)
    have := hq groups
    have := ho groups q rfl
    omega

end

/-! ### Letters that are lost -/

section

variable [Runtime]

-- One of the alternatives matches the whole of the text, but none of those does that are found.
def LosesLetter (text : Array Char) (fs : Flags) (as : List (List Node)) : Prop :=
  (∃ a ∈ as, matchWhole text fs a ≠ none) ∧ ∀ a ∈ found as, matchWhole text fs a = none

theorem isMerged_of_losesLetter (h : LosesLetter text fs as) : isMerged as := by
  by_contra hm
  have ⟨⟨a, ha, hs⟩, hn⟩ := h
  rw [found, if_neg hm] at hn
  exact hs <| hn a ha

-- Alternatives that are made one set all note the same, where they match.
theorem matchWhole_of_isMerged (hm : isMerged as) (ha : a ∈ as) (h : matchWhole text fs a ≠ none) :
    matchWhole text fs a = some [] ∧ ∀ groups, Node.leastOf groups a ≤ text.size := by
  have ⟨_, _, _, hs⟩ := exists_merges hm
  have ⟨bounds, hb⟩ := Option.ne_none_iff_exists'.mp h
  have ⟨hn, hl⟩ := matchFrom_whole_of_isFlat (hs.isFlat a ha) hb
  exact ⟨hb.trans <| congrArg _ hn, fun groups => (Nat.zero_add _).symm.le.trans <| hl groups⟩

theorem matchWhole_eq_of_isMerged (hm : isMerged as) (ha : a ∈ as) :
    matchWhole text fs a = none ∨ matchWhole text fs a = some [] := by
  by_cases hn : matchWhole text fs a = none
  case pos => exact .inl hn
  case neg => exact .inr (matchWhole_of_isMerged hm ha hn).left

theorem findSome?_found (h : ¬LosesLetter text fs as) :
    (found as).findSome? (matchWhole text fs) = as.findSome? (matchWhole text fs) := by
  by_cases hm : isMerged as
  case neg => rw [found, if_neg hm]
  case pos =>
    have hs (a) (ha : a ∈ as) : matchWhole text fs a = none ∨ matchWhole text fs a = some [] :=
      matchWhole_eq_of_isMerged hm ha
    have hsub : found as ⊆ as := by
      rw [found, if_pos hm]
      exact List.filter_sublist.subset
    by_cases hn : ∀ a ∈ as, matchWhole text fs a = none
    case pos =>
      rw [List.findSome?_eq_none_iff.mpr hn,
        List.findSome?_eq_none_iff.mpr fun a ha => hn a (hsub ha)]
    case neg =>
      obtain ⟨a, ha, hf⟩ : ∃ a ∈ found as, matchWhole text fs a ≠ none := by
        simp only [not_forall] at hn
        obtain ⟨b, hb, hn⟩ := hn
        by_contra hf
        exact h ⟨⟨b, hb, hn⟩, by simpa using hf⟩
      have he := (hs a <| hsub ha).resolve_left hf
      rw [findSome?_of_forall hs ⟨a, hsub ha, he⟩,
        findSome?_of_forall (fun b hb => hs b <| hsub hb) ⟨a, ha, he⟩]

theorem findSome?_of_losesLetter (h : LosesLetter text fs as) :
    as.findSome? (matchWhole text fs) = some [] := by
  have hm := isMerged_of_losesLetter h
  have ⟨⟨a, ha, hn⟩, _⟩ := h
  exact findSome?_of_forall (fun b hb => matchWhole_eq_of_isMerged hm hb)
    ⟨a, ha, (matchWhole_of_isMerged hm ha hn).left⟩

end

namespace Node

variable {groups : Nat → Width}

theorem leastOf_lineStart (a : List Node) :
    leastOf groups (.anchor .lineStart :: a) = leastOf groups a := by
  refine eq_of_forall_le_iff fun m => le_leastOf_cons_iff.trans ?_
  have hl : leastOf groups a < Width.limit := leastOf_lt_limit a
  simp only [width]
  omega

theorem leastOf_lineEnd (a : List Node) :
    leastOf groups (a ++ [.anchor .lineEnd]) = leastOf groups a := by
  induction a
  case nil => rfl
  case cons n a hi =>
    refine eq_of_forall_le_iff fun m => ?_
    rw [List.cons_append, le_leastOf_cons_iff, le_leastOf_cons_iff, hi]

end Node

namespace Anchoring

variable {w : Anchoring} {as : List (List Node)}

theorem leastOf_alternatives (h : as ≠ []) (groups : Nat → Width) :
    Node.leastOf groups (Node.ofAlternatives (w.alternatives as)) =
      Node.leastOf groups (Node.ofAlternatives as) := by
  have hm := map_alternatives (w := w) (φ := Node.leastOf groups) Node.leastOf_lineStart
    Node.leastOf_lineEnd as
  have ha (as : List (List Node)) (m : Nat) :
      (∀ a ∈ as, m ≤ Node.leastOf groups a) ↔ ∀ l ∈ as.map (Node.leastOf groups), m ≤ l :=
    List.forall_mem_map.symm
  refine eq_of_forall_le_iff fun m => ?_
  rw [Node.le_leastOf_ofAlternatives_iff h,
    Node.le_leastOf_ofAlternatives_iff (alternatives_ne_nil h), ha, ha, hm]

theorem checkLookbehinds_alternatives (as : List (List Node)) :
    Program.checkLookbehinds (.sequence (Node.ofAlternatives (w.alternatives as))) =
      Program.checkLookbehinds (.sequence (Node.ofAlternatives as)) := by
  have hm := map_alternatives (w := w) (φ := List.flatMap Node.lookbehinds) (fun _ => rfl)
    (fun a => by simp [Node.lookbehinds]) as
  have ha (as : List (List Node)) (l : Width) :
      (∃ a ∈ as, ∃ n ∈ a, l ∈ n.lookbehinds) ↔
        ∃ b ∈ as.map (List.flatMap Node.lookbehinds), l ∈ b := by
    simp
  refine Program.checkLookbehinds_congr fun l => ?_
  rw [Node.mem_lookbehinds_ofAlternatives_iff, Node.mem_lookbehinds_ofAlternatives_iff, ha, ha, hm]

theorem map_matchWhole_alternatives [Runtime] (text : Array Char) (fs : Flags)
    (as : List (List Node)) :
    (w.alternatives as).map (matchWhole text fs) = as.map (matchWhole text fs) :=
  map_alternatives (matchWhole_lineStart text fs) (matchWhole_lineEnd text fs) as

end Anchoring

namespace Program

-- What becomes of a match, given what it has noted of groups.
def outcome : Option (List (Option Nat)) → Except MatchFault Bool
  | none => .ok false
  | some bounds => if Registers.isReversed.go bounds then .error .reversedGroup else .ok true

section

variable [Runtime]

theorem fullMatch_sequence (nodes : List Node) (flags : Flags) (least : Nat) (text : List Char) :
    fullMatch ⟨.sequence nodes, flags, least⟩ text =
      if text.length < least then .ok false
      else outcome (matchWhole text.toArray flags nodes) := by
  have ho (t : Trial) : (if t.matched && t.registers.isReversed then .error .reversedGroup
      else .ok t.matched : Except MatchFault Bool) = outcome t.match? := by
    unfold Trial.match?
    cases t.matched <;> rfl
  exact congrArg (ite _ _) (ho _)

-- What becomes of a match of any of several alternatives.
def answer (least : Nat) (text : Array Char) (fs : Flags) (as : List (List Node)) :
    Except MatchFault Bool :=
  if text.size < least then .ok false else outcome (as.findSome? (matchWhole text fs))

variable {least : Nat} {as as' : List (List Node)}

theorem answer_congr (h : as.map (matchWhole text fs) = as'.map (matchWhole text fs)) :
    answer least text fs as = answer least text fs as' := by
  have hs (as : List (List Node)) :
      as.findSome? (matchWhole text fs) = (as.map (matchWhole text fs)).findSome? id := by
    rw [List.findSome?_map]
    rfl
  rw [answer, answer, hs, hs, h]

theorem answer_found (h : ¬LosesLetter text fs as) :
    answer least text fs (found as) = answer least text fs as := by
  rw [answer, answer, findSome?_found h]

theorem answer_found_of_losesLetter (h : LosesLetter text fs as) :
    answer least text fs (found as) = .ok false := by
  rw [answer, List.findSome?_eq_none_iff.mpr h.right]
  split <;> rfl

theorem answer_of_losesLetter (h : LosesLetter text fs as) (groups : Nat → Width)
    (hl : ∀ a ∈ as, least ≤ Node.leastOf groups a) : answer least text fs as = .ok true := by
  have hm := isMerged_of_losesLetter h
  have ⟨⟨a, ha, hn⟩, _⟩ := h
  have ht : ¬text.size < least := by
    have := hl a ha
    have := (matchWhole_of_isMerged hm ha hn).right groups
    omega
  rw [answer, if_neg ht, findSome?_of_losesLetter h]
  rfl

-- Alternatives that match alike by themselves do so put together, if both or neither lose a letter.
theorem answer_found_eq_iff (groups : Nat → Width)
    (h : as.map (matchWhole text fs) = as'.map (matchWhole text fs))
    (hl : ∀ a ∈ as, least ≤ Node.leastOf groups a)
    (hl' : ∀ a ∈ as', least ≤ Node.leastOf groups a) :
    answer least text fs (found as) = answer least text fs (found as') ↔
      (LosesLetter text fs as ↔ LosesLetter text fs as') := by
  have hc : answer least text fs as = answer least text fs as' := answer_congr h
  by_cases hm : LosesLetter text fs as
  case pos =>
    rw [answer_found_of_losesLetter hm]
    by_cases hm' : LosesLetter text fs as'
    case pos =>
      rw [answer_found_of_losesLetter hm']
      exact iff_of_true rfl <| iff_of_true hm hm'
    case neg =>
      rw [answer_found hm', ← hc, answer_of_losesLetter hm groups hl]
      exact iff_of_false nofun fun h => hm' <| h.mp hm
  case neg =>
    rw [answer_found hm]
    by_cases hm' : LosesLetter text fs as'
    case pos =>
      rw [answer_found_of_losesLetter hm', hc, answer_of_losesLetter hm' groups hl']
      exact iff_of_false nofun fun h => hm <| h.mpr hm'
    case neg =>
      rw [answer_found hm']
      exact iff_of_true hc <| iff_of_false hm hm'

end

end Program

end StepCatalog.Regex
