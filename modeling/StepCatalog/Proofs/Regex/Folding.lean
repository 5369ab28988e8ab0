import Mathlib
import StepCatalog.Proofs.Unicode.Caseless
import StepCatalog.Regex.Alternatives
import StepCatalog.Regex.CharTest

namespace StepCatalog

namespace Unicode

/-! ### Variants -/

theorem mem_othersIn {entries : List (Nat × List Nat)} (h : o ∈ othersIn entries l) :
    ∃ e ∈ entries, e.1 = l ∧ o ∈ e.2 := by
  induction entries <;> simp only [othersIn] at h
  case nil => contradiction
  case cons e es hi =>
    split at h
    case isTrue => contradiction
    case isFalse =>
      split at h
      case isTrue he => exact ⟨e, List.mem_cons_self, he.symm, h⟩
      case isFalse =>
        obtain ⟨e', hm, he⟩ := hi h
        exact ⟨e', List.mem_cons_of_mem _ hm, he⟩

theorem sharedUppercase_others :
    sharedUppercase.all (fun e => e.1 ≤ 0xffff && e.2.all hasCase) = true := by
  decide +kernel

-- No letter that shares its uppercase is beyond the first plane.
theorem lowerVariants_of_large (h : 0xffff < l) : lowerVariants l = [l] := by
  by_contra hn
  have ho : othersIn sharedUppercase l ≠ [] := by
    intro ho
    simp [lowerVariants, ho] at hn
  obtain ⟨e, hm, he⟩ := othersIn_ne_nil ho
  have := List.all_eq_true.mp sharedUppercase_others e hm
  simp only [Bool.and_eq_true, decide_eq_true_eq] at this
  omega

theorem lowercaseRuns_large :
    lowercaseRuns.all (fun u => u.apply u.last ≤ 0xffff ||
      lowercaseRuns.all fun r => r.apply r.last < u.first || u.last < r.apply r.first) = true := by
  decide +kernel

-- No capital beyond the first plane is itself the lowercase of a character.
theorem lower_ne_of_large (hl : 0xffff < lower k) (hn : lower k ≠ k) (c : Nat) : lower c ≠ k := by
  intro hc
  have ⟨u, hu, hk, hke⟩ := mapIn_ne hn
  have hcn : lower c ≠ c := by
    intro he
    rw [← hc, he] at hn
    exact hn he
  have ⟨r, hr, hcr, hce⟩ := mapIn_ne hcn
  have ht := List.all_eq_true.mp lowercaseRuns_large u hu
  simp only [Bool.or_eq_true, decide_eq_true_eq, List.all_eq_true] at ht
  have ⟨_, hk₂, _⟩ := CaseRun.covers_iff.mp hk
  have ⟨hc₁, hc₂, _⟩ := CaseRun.covers_iff.mp hcr
  rw [lower, hke] at hl
  rw [lower, hce] at hc
  cases ht
  case inl ht =>
    simp only [CaseRun.apply] at ht hl
    omega
  case inr ht =>
    have ht := ht r hr
    simp only [CaseRun.apply] at ht hc
    omega

theorem eq_of_mem_lowerVariants (hk : hasCase k = false) (h : k ∈ lowerVariants (lower c)) :
    c = k := by
  by_contra hn
  rw [lowerVariants, List.mem_cons] at h
  cases h
  case inl h =>
    have := hasCase_lower (c := c) fun hl => hn (hl.symm.trans h.symm)
    simp_all
  case inr h =>
    obtain ⟨e, he, _, hm⟩ := mem_othersIn h
    have := List.all_eq_true.mp sharedUppercase_others e he
    simp only [Bool.and_eq_true, List.all_eq_true] at this
    simp_all

theorem lower_of_mem_lowerPreimages (h : k ∈ lowerPreimages v) : lower k = v := by
  rw [lowerPreimages, List.mem_append] at h
  cases h
  case inl h =>
    split at h
    case isTrue hl =>
      rw [List.mem_singleton.mp h]
      exact eq_of_beq hl
    case isFalse => contradiction
  case inr h =>
    have ⟨r, hr, hp⟩ := List.mem_filterMap.mp h
    simp only [CaseRun.preimage?] at hp
    split at hp
    case isTrue hc =>
      cases hp
      simp only [Bool.and_eq_true, beq_iff_eq] at hc
      rw [lower, mapIn_of_covers lowercaseRuns_pairwise hr hc.left, hc.right]
    case isFalse => contradiction

end Unicode

/-! ### Character sets -/

namespace Regex

-- A test for a capital beyond the first plane. It passes for its letter by itself, but not as a member
-- of a set.
def CharTest.isLost : CharTest → Bool
  | literal k => SetItem.lastFolded < Unicode.lower k && Unicode.lower k != k
  | _ => false

variable {fs : Flags}

namespace SetItem

-- What is not folded for its own sake contains the same characters if they are folded.
theorem containsFolded_eq {item : SetItem} (ha : fs.ascii = false)
    (h : item.needsFolding fs = false) (c : Nat) :
    item.containsFolded fs (fs.foldCase c) = item.contains fs c := by
  rw [Bool.eq_iff_iff]
  cases item <;>
    simp only [needsFolding, containsFolded, contains, Flags.foldCase, Flags.variants,
      Flags.unfold, Flags.hasCase, Flags.rangeHasCase, ha, Bool.false_eq_true, if_false,
      Bool.or_eq_false_iff, decide_eq_false_iff_not] at h ⊢
  case code k =>
    have hl := Unicode.sameLetter_iff_of_not_hasCase (c := c) h.right
    rw [if_pos (by omega), List.contains_iff_mem, beq_iff_eq]
    exact hl
  case range low high =>
    have hc (k : Nat) (hl : low ≤ k) (hh : k ≤ high) : Unicode.hasCase k = false :=
      Unicode.not_hasCase_of_rangeHasCase h.right hl hh
    simp only [Bool.or_eq_true, List.any_eq_true, Bool.and_eq_true, decide_eq_true_eq, h.left,
      false_and, or_false]
    constructor
    case mp =>
      rintro ⟨v, hv, k, hk, ⟨hl, hh⟩, -⟩
      have hk' := Unicode.lower_of_not_hasCase (hc k hl hh)
      rw [← Unicode.lower_of_mem_lowerPreimages hk, hk'] at hv
      rw [Unicode.eq_of_mem_lowerVariants (hc k hl hh) hv]
      exact ⟨hl, hh⟩
    case mpr =>
      rintro ⟨hl, hh⟩
      have hk := Unicode.lower_of_not_hasCase (hc c hl hh)
      refine ⟨c, by simp [hk, Unicode.lowerVariants], c, ?_, ⟨hl, hh⟩, by omega⟩
      simp [Unicode.lowerPreimages, hk]
  case category kind negated =>
    cases kind <;>
      simp [Category.contains, ha, Unicode.isDecimal_lower, Unicode.isBlank_lower,
        Unicode.isWord_lower]

theorem containsFolded_code (hi : fs.ignoreCase = true) (ha : fs.ascii = false) (k c : Nat) :
    (code k).containsFolded fs (fs.foldCase c) =
      (!(CharTest.literal k).isLost && fs.sameChar k c) := by
  rw [Bool.eq_iff_iff, Bool.and_eq_true, Bool.not_eq_true', Flags.sameChar_iff hi ha]
  simp only [containsFolded, Flags.foldCase, Flags.variants, ha, Bool.false_eq_true, if_false,
    CharTest.isLost]
  split
  case isTrue hl =>
    have hs : (decide (lastFolded < Unicode.lower k) && Unicode.lower k != k) = false := by
      simp [Nat.not_lt.mpr hl]
    exact List.contains_iff_mem.trans (and_iff_right hs).symm
  case isFalse hl =>
    have hl : lastFolded < Unicode.lower k := by omega
    rw [beq_iff_eq]
    by_cases he : Unicode.lower k = k
    case pos =>
      rw [Unicode.SameLetter, Unicode.lowerVariants_of_large hl, List.mem_singleton]
      simp [he]
    case neg =>
      exact iff_of_false (Unicode.lower_ne_of_large hl he c) fun h => by simp [hl, he] at h

end SetItem

/-! ### Alternatives of one character -/

-- A node that does the work of a set has the set's members.
structure IsMember (a : List Node) (items : List SetItem) (t : CharTest) : Prop where
  eq : a = [.char t]
  cases : (∃ k, t = .literal k ∧ items = [.code k]) ∨ t = .set false items

theorem isMember_of_members? (h : Node.members? a = some items) : ∃ t, IsMember a items t := by
  unfold Node.members? at h
  split at h
  case h_1 k => exact ⟨_, rfl, .inl ⟨k, rfl, (Option.some.inj h).symm⟩⟩
  case h_2 => exact ⟨_, rfl, .inr <| by rw [Option.some.inj h]⟩
  case h_3 => contradiction

theorem any_eq_true_congr {items : List SetItem} {f g : SetItem → Bool}
    (h : ∀ item ∈ items, f item = g item) : items.any f = items.any g := by
  rw [Bool.eq_iff_iff, List.any_eq_true, List.any_eq_true]
  exact exists_congr fun item => and_congr_right fun hm => by rw [h item hm]

theorem foldsSet_eq_false_iff (hi : fs.ignoreCase = true) :
    fs.foldsSet items = false ↔ ∀ item ∈ items, item.needsFolding fs = false := by
  simp [Flags.foldsSet, hi]

namespace IsMember

theorem any_containsFolded (h : IsMember a items t) (hi : fs.ignoreCase = true)
    (ha : fs.ascii = false) (c : Nat) :
    items.any (·.containsFolded fs (fs.foldCase c)) = (!t.isLost && t.accepts fs c) := by
  rcases h.cases with ⟨k, rfl, rfl⟩ | rfl
  case inl => simp [CharTest.accepts, SetItem.containsFolded_code hi ha]
  case inr =>
    simp only [CharTest.accepts, CharTest.isLost, Bool.bne_false, Bool.not_false, Bool.true_and]
    split
    case isTrue => rfl
    case isFalse hf =>
      have hf := (foldsSet_eq_false_iff hi).mp <| Bool.eq_false_of_not_eq_true hf
      exact any_eq_true_congr fun item hm => SetItem.containsFolded_eq ha (hf item hm) c

theorem any_contains (h : IsMember a items t) (hi : fs.ignoreCase = true) (ha : fs.ascii = false)
    (hf : fs.foldsSet items = false) (c : Nat) :
    items.any (·.contains fs c) = (!t.isLost && t.accepts fs c) := by
  rcases h.cases with ⟨k, rfl, rfl⟩ | rfl
  case inl =>
    have hc := (foldsSet_eq_false_iff hi).mp hf _ List.mem_cons_self
    simp only [SetItem.needsFolding, Flags.hasCase, ha, Bool.false_eq_true, if_false,
      Bool.or_eq_false_iff] at hc
    have hl : (CharTest.literal k).isLost = false := by
      simp [CharTest.isLost, Unicode.lower_of_not_hasCase hc.right]
    rw [Bool.eq_iff_iff, hl, Bool.not_false, Bool.true_and, CharTest.accepts,
      Flags.sameChar_iff hi ha, Unicode.sameLetter_iff_of_not_hasCase hc.right]
    simp [SetItem.contains]
  case inr => simp [CharTest.accepts, CharTest.isLost, hf]

end IsMember

theorem members?_of_mapM {alternatives : List (List Node)}
    (h : alternatives.mapM Node.members? = some sets) :
    (∀ a ∈ alternatives, ∃ items ∈ sets, Node.members? a = some items) ∧
      ∀ items ∈ sets, ∃ a ∈ alternatives, Node.members? a = some items := by
  induction alternatives generalizing sets
  case nil =>
    cases h
    exact ⟨nofun, nofun⟩
  case cons a alternatives hi =>
    rw [List.mapM_cons] at h
    have ⟨items, hm, h⟩ := Option.bind_eq_some_iff.mp h
    have ⟨rest, hr, h⟩ := Option.bind_eq_some_iff.mp h
    cases h
    have ⟨h₁, h₂⟩ := hi hr
    constructor <;> rw [List.forall_mem_cons]
    case left =>
      refine ⟨⟨items, List.mem_cons_self, hm⟩, fun b hb => ?_⟩
      have ⟨others, ho, hb⟩ := h₁ b hb
      exact ⟨others, List.mem_cons_of_mem _ ho, hb⟩
    case right =>
      refine ⟨⟨a, List.mem_cons_self, hm⟩, fun others ho => ?_⟩
      have ⟨b, hb, ho⟩ := h₂ others ho
      exact ⟨b, List.mem_cons_of_mem _ hb, ho⟩

-- The set of what several alternatives have for members accepts what one of them does that is not
-- lost in it.
theorem accepts_flatten {alternatives : List (List Node)} (hi : fs.ignoreCase = true)
    (ha : fs.ascii = false) (h : alternatives.mapM Node.members? = some sets) (c : Nat) :
    (CharTest.set false sets.flatten.eraseDups).accepts fs c ↔
      ∃ t, [.char t] ∈ alternatives ∧ t.isLost = false ∧ t.accepts fs c := by
  have ⟨h₁, h₂⟩ := members?_of_mapM h
  -- A set of all members folds characters or does not; each alternative agrees with it either way.
  have hs (f : SetItem → Bool)
      (hf : ∀ a ∈ alternatives, ∀ items ∈ sets, ∀ t, IsMember a items t →
        items.any f = (!t.isLost && t.accepts fs c)) :
      sets.flatten.eraseDups.any f ↔
        ∃ t, [.char t] ∈ alternatives ∧ t.isLost = false ∧ t.accepts fs c := by
    simp only [List.any_eq_true, List.mem_eraseDups, List.mem_flatten, ← Bool.not_eq_true',
      ← Bool.and_eq_true]
    constructor
    case mp =>
      intro ⟨item, ⟨items, hm, hitem⟩, hc⟩
      have ⟨a, hma, hmem⟩ := h₂ items hm
      have ⟨t, ht⟩ := isMember_of_members? hmem
      refine ⟨t, ht.eq ▸ hma, ?_⟩
      rw [← hf a hma items hm t ht]
      exact List.any_eq_true.mpr ⟨item, hitem, hc⟩
    case mpr =>
      intro ⟨t, hma, hc⟩
      have ⟨items, hm, hmem⟩ := h₁ _ hma
      have ⟨t', ht⟩ := isMember_of_members? hmem
      have he : t = t' := by simpa using ht.eq
      rw [he, ← hf _ hma items hm t' ht] at hc
      have ⟨item, hitem, hc⟩ := List.any_eq_true.mp hc
      exact ⟨item, ⟨items, hm, hitem⟩, hc⟩
  simp only [CharTest.accepts, Bool.bne_false]
  split
  case isTrue => exact hs _ fun _ _ _ _ _ ht => ht.any_containsFolded hi ha c
  case isFalse hf =>
    have hf := (foldsSet_eq_false_iff hi).mp <| Bool.eq_false_of_not_eq_true hf
    refine hs _ fun _ _ items hm _ ht => ht.any_contains hi ha ?_ c
    refine (foldsSet_eq_false_iff hi).mpr fun item hitem => hf item ?_
    exact List.mem_eraseDups.mpr <| List.mem_flatten.mpr ⟨items, hm, hitem⟩

end Regex

end StepCatalog
