import Mathlib
import StepCatalog.Regex.Matcher

namespace StepCatalog.Regex

/-! ### Characters of the text -/

section

variable {text : Array Char}

theorem hasCharAt_eq_drop (p i : Nat) (f : Nat → Bool) :
    hasCharAt text (p + i) f = (text.toList.drop p)[i]?.any fun c => f c.toNat := by
  simp [hasCharAt]

theorem lt_size_of_hasCharAt {p : Nat} {f : Nat → Bool} (h : hasCharAt text p f) :
    p < text.size := by
  by_contra hn
  simp [hasCharAt, Array.getElem?_eq_none (Nat.le_of_not_lt hn)] at h

theorem le_left_of_hasCharAt {p n : Nat} {f : Nat → Bool} (h : ∀ i < n, hasCharAt text (p + i) f) :
    n ≤ text.size - p := by
  cases n
  case zero => omega
  case succ n =>
    have := lt_size_of_hasCharAt <| h n (by omega)
    omega

-- Passing over one character that satisfies `f` is taking it off what is left of the text.
theorem hasCharAt_and_iff {f : Nat → Bool} {Q : List Char → Prop} {p : Nat} :
    hasCharAt text p f ∧ Q (text.toList.drop (p + 1)) ↔
      ∃ c u, text.toList.drop p = c :: u ∧ f c.toNat ∧ Q u := by
  rw [List.drop_eq_getElem?_toList_append (i := p), hasCharAt, Array.getElem?_toList]
  cases h : text[p]?
  case some => simp
  case none =>
    have hp := Array.getElem?_eq_none_iff.mp h
    have hd : text.toList.drop (p + 1) = [] := List.drop_eq_nil_of_le (by simp; omega)
    simp [hd]

-- Passing over some characters that satisfy `f` is splitting them off from what is left of the
-- text.
theorem exists_pass_iff {f : Nat → Bool} {Q : List Char → Prop} {p : Nat} :
    (∃ n, (∀ i < n, hasCharAt text (p + i) f) ∧ Q (text.toList.drop (p + n))) ↔
      ∃ w u, text.toList.drop p = w ++ u ∧ (∀ c ∈ w, f c.toNat) ∧ Q u := by
  simp only [hasCharAt_eq_drop, ← List.drop_drop]
  generalize text.toList.drop p = d
  constructor
  case mp =>
    intro ⟨n, hn, hq⟩
    refine ⟨d.take n, d.drop n, (List.take_append_drop n d).symm, ?_, hq⟩
    intro c hc
    have ⟨i, hi⟩ := List.mem_iff_getElem?.mp hc
    rw [List.getElem?_take] at hi
    split at hi
    case isTrue hl => simpa [hi] using hn i hl
    case isFalse => contradiction
  case mpr =>
    intro ⟨w, u, hd, hw, hq⟩
    refine ⟨w.length, ?_, by simpa [hd] using hq⟩
    intro i hi
    simp [hd, List.getElem?_append_left hi, hi, hw]

-- `passEnd` goes past just those characters of which all up to there pass.
theorem le_passEnd_iff {f : Nat → Bool} {limit p n : Nat} :
    p + n ≤ passEnd text f limit p ↔ n ≤ limit ∧ ∀ i < n, hasCharAt text (p + i) f := by
  induction limit generalizing p n <;> simp only [passEnd]
  case zero =>
    constructor
    case mp => intro h; exact ⟨by omega, by omega⟩
    case mpr => omega
  case succ limit hi =>
    split
    case isFalse hc =>
      constructor
      case mp => intro h; exact ⟨by omega, by omega⟩
      case mpr =>
        intro ⟨_, h⟩
        by_contra hn
        exact hc <| h 0 (by omega)
    case isTrue hc =>
      cases n
      case zero =>
        have := (hi (p := p + 1) (n := 0)).mpr ⟨by omega, by omega⟩
        simp
        omega
      case succ n =>
        rw [Nat.add_comm n 1, ← Nat.add_assoc, hi, Nat.add_comm 1 n, Nat.add_le_add_iff_right,
          Nat.forall_lt_succ_left]
        simp only [Nat.add_zero, hc, true_and, Nat.add_assoc, Nat.add_comm 1]

-- As many characters as a loop counts in advance: no more than its bound and than there are left.
theorem le_passEnd_most_iff (text : Array Char) (f : Nat → Bool) (most : Option Nat) (p n : Nat) :
    p + n ≤ passEnd text f (min (most.getD (text.size - p)) (text.size - p)) p ↔
      (∀ m ∈ most, n ≤ m) ∧ ∀ i < n, hasCharAt text (p + i) f := by
  rw [le_passEnd_iff]
  constructor
  case mp =>
    intro ⟨h₁, h₂⟩
    refine ⟨?_, h₂⟩
    rintro m rfl
    simp only [Option.getD_some] at h₁
    omega
  case mpr =>
    intro ⟨h₁, h₂⟩
    refine ⟨?_, h₂⟩
    have := le_left_of_hasCharAt h₂
    cases most
    case none => simpa using this
    case some m =>
      have := h₁ m rfl
      simp only [Option.getD_some]
      omega

end

/-! ### Deciding -/

-- As long as no group is noted, the rest matches from just the places in `P`, and notes no group.
def Rest.Decides (k : Rest) (P : Nat → Prop) : Prop :=
  ∀ p r, r.bounds = [] → ((k p r).matched ↔ P p) ∧ (k p r).registers.bounds = []

namespace Rest.Decides

variable {text : Array Char} {k : Rest} {P : Nat → Prop}

theorem congr {Q : Nat → Prop} (h : k.Decides P) (he : ∀ p, P p ↔ Q p) : k.Decides Q := by
  intro p r hr
  have ⟨hm, hb⟩ := h p r hr
  exact ⟨hm.trans <| he p, hb⟩

theorem failure {r : Registers} {q : Prop} (hr : r.bounds = []) (hq : ¬q) :
    ((Trial.failure r).matched ↔ q) ∧ (Trial.failure r).registers.bounds = [] :=
  ⟨by simp [Trial.failure, hq], hr⟩

theorem char [Runtime] (h : k.Decides P) (t : CharTest) (s : Setting) :
    Decides (fun p r => (Node.char t).run text s p r k)
      fun p => hasCharAt text p (t.accepts s.flags) ∧ P (p + 1) := by
  intro p r hr
  simp only [Node.run]
  split
  case isTrue hc => simpa only [hc, true_and] using h (p + 1) r hr
  case isFalse hc => exact failure hr <| mt And.left hc

theorem anchor [Runtime] (h : k.Decides P) (a : Anchor) (s : Setting) :
    Decides (fun p r => (Node.anchor a).run text s p r k)
      fun p => a.holds text s.flags p ∧ P p := by
  intro p r hr
  simp only [Node.run]
  split
  case isTrue hc => simpa only [hc, true_and] using h p r hr
  case isFalse hc => exact failure hr <| mt And.left hc

theorem stop (h : k.Decides P) (inRound : Bool) :
    Decides (fun p r => Move.stop inRound p r k) P := by
  intro p r hr
  have ⟨hm, hb⟩ := h p (r.moveTo p) hr
  simp only [Move.stop, Trial.orTry]
  split
  case isTrue => exact ⟨hm, hb⟩
  case isFalse hf =>
    apply failure ?_ <| mt hm.mpr hf
    cases inRound <;> simp [Registers.undo, hr]

-- Places where a wanted character is missing may be passed over if the rest would not match there.
theorem tryAt (h : k.Decides P) {wanted : Option Nat} (inRound : Bool)
    (hw : ∀ c p, wanted = some c → P p → hasCharAt text p (· == c)) :
    Decides (giveBack.tryAt text inRound wanted k) P := by
  intro p r hr
  simp only [giveBack.tryAt]
  split
  case isTrue => exact h.stop inRound p r hr
  case isFalse hc =>
    simp only [Option.all_eq_true, not_forall] at hc
    have ⟨c, hs, hn⟩ := hc
    exact failure hr fun hp => hn <| hw c p hs hp

theorem giveBack (h : k.Decides P) {wanted : Option Nat} (inRound : Bool)
    (hw : ∀ c p, wanted = some c → P p → hasCharAt text p (· == c))
    (low n : Nat) {r : Registers} (hr : r.bounds = []) :
    ((giveBack text inRound wanted k low n r).matched ↔ ∃ i ≤ n, P (low + i)) ∧
      (giveBack text inRound wanted k low n r).registers.bounds = [] := by
  induction n generalizing r <;> simp only [Regex.giveBack]
  case zero =>
    have ⟨hm, hb⟩ := h.tryAt inRound hw low r hr
    exact ⟨by simpa using hm, hb⟩
  case succ n hi =>
    have ⟨hm, hb⟩ := h.tryAt inRound hw (low + (n + 1)) r hr
    simp only [Trial.orTry]
    split
    case isTrue hs => exact ⟨by simpa [hs] using ⟨n + 1, by omega, hm.mp hs⟩, hb⟩
    case isFalse hs =>
      have ⟨hm', hb'⟩ := hi hb
      refine ⟨hm'.trans ?_, hb'⟩
      constructor
      case mp => exact fun ⟨i, hl, hp⟩ => ⟨i, by omega, hp⟩
      case mpr =>
        intro ⟨i, hl, hp⟩
        by_cases he : i = n + 1
        case pos => exact absurd (hm.mpr (he ▸ hp)) hs
        case neg => exact ⟨i, by omega, hp⟩

-- A greedy loop of a single character: of all the numbers of rounds that the quantifier and the
-- text allow, one has to be followed by a match of the rest.
theorem repeatChar (h : k.Decides P) (s : Setting) (least : Nat) (most : Option Nat) (fs : Flags)
    (t : CharTest) (hw : ∀ c p, s.nextChar? = some c → P p → hasCharAt text p (· == c)) :
    Decides (fun p r => Move.repeatChar text s ⟨least, most, .greedy⟩ fs t p r k)
      fun p => ∃ n, least ≤ n ∧ (∀ m ∈ most, n ≤ m) ∧
        (∀ i < n, hasCharAt text (p + i) (t.accepts fs)) ∧ P (p + n) := by
  intro p r hr
  have hc := le_passEnd_most_iff text (t.accepts fs) most p
  simp only [Move.repeatChar, reduceCtorEq, if_false]
  generalize passEnd text (t.accepts fs) _ p = reached at hc ⊢
  split
  case isTrue hl =>
    apply failure hr
    intro ⟨n, hn, _, hp, _⟩
    have := le_left_of_hasCharAt hp
    omega
  case isFalse =>
    split
    case isTrue hf =>
      apply failure hr
      intro ⟨n, hn, hm, hp, _⟩
      have := (hc n).mpr ⟨hm, hp⟩
      omega
    case isFalse hf =>
      have ⟨hm, hb⟩ := h.giveBack s.inRound hw (p + least) (reached - (p + least))
        (r := r.moveTo (if t.isCompound fs then reached else p)) hr
      refine ⟨hm.trans ?_, hb⟩
      constructor
      case mp =>
        intro ⟨i, hi, hp⟩
        have ⟨h₁, h₂⟩ := (hc (least + i)).mp (by omega)
        exact ⟨least + i, by omega, h₁, h₂, by rwa [← Nat.add_assoc]⟩
      case mpr =>
        intro ⟨n, hn, hm, hp, hP⟩
        have := (hc n).mpr ⟨hm, hp⟩
        exact ⟨n - least, by omega, by rwa [show p + least + (n - least) = p + n by omega]⟩

end Rest.Decides

end StepCatalog.Regex
