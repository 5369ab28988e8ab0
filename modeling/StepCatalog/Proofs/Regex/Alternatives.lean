import Mathlib
import StepCatalog.Proofs.Regex.Alike
import StepCatalog.Proofs.Regex.Folding

namespace StepCatalog.Regex

variable {text : Array Char} {fs : Flags} {k : Rest} {s : Setting} {r : Registers} {n : Node}

/-! ### Results -/

-- What a match has noted of groups, if there is a match.
def Trial.match? (t : Trial) : Option (List (Option Nat)) :=
  if t.matched then some t.registers.bounds else none

namespace Trial

theorem Alike.match?_eq (h : Alike t t') : t.match? = t'.match? := by
  simp [match?, h.matched, h.bounds]

theorem match?_orTry {t : Trial} {f : Registers → Trial}
    (h : t.matched = false → (f t.registers).match? = o) : (t.orTry f).match? = t.match?.or o := by
  unfold orTry match?
  cases ht : t.matched
  case false => simpa [match?] using h ht
  case true => simp [ht]

end Trial

/-! ### Hopeless alternatives -/

namespace Node

theorem run_of_isHollow [Runtime] (h : n.isHollow) (s : Setting) (p : Nat) (r : Registers)
    (k : Rest) : n.run text s p r k = k p r := by
  induction n generalizing s r k p <;>
    simp only [isHollow, Bool.false_eq_true, Bool.and_eq_true] at h
  case empty => rfl
  case seq a b ha hb => rw [run, ha h.left, hb h.right]
  case «scoped» on off a ha => rw [run, ha h]

theorem run_of_firstTest? [Runtime] (h : n.firstTest? s.flags = some (fs, t))
    (hc : hasCharAt text p (t.accepts fs) = false) (r : Registers) (k : Rest) :
    n.run text s p r k = .failure r := by
  induction n generalizing s p r k <;> simp only [firstTest?, reduceCtorEq] at h
  case char => cases h; simp [run, hc]
  case seq a b ha hb =>
    rw [run]
    split at h
    case isTrue hh => rw [run_of_isHollow hh, hb h hc]
    case isFalse =>
      have hs : a.firstTest? ({ s with next := (s.flags, b) :: s.next } : Setting).flags = _ := h
      rw [ha hs hc]
  case «scoped» on off a ha =>
    have hs :
        a.firstTest? ({ s with flags := (s.flags.turnOn on).turnOff off } : Setting).flags = _ := h
    rw [run, ha hs hc]

end Node

theorem isHopeless_run [Runtime] (h : isHopeless text s.flags n p) (r : Registers) (k : Rest) :
    n.run text s p r k = .failure r := by
  unfold isHopeless at h
  split at h
  case h_1 fs t hf =>
    simp only [Bool.and_eq_true, Bool.not_eq_true'] at h
    exact Node.run_of_firstTest? hf h.right r k
  case h_2 => contradiction

theorem match?_alternative [Runtime] (hk : k.Alike k) (s : Setting) (n : Node) (p : Nat)
    (r : Registers) :
    (Move.alternative text s n (n.run text s.last) p r k).match? =
      (n.run text s.last p r k).match? := by
  unfold Move.alternative
  split
  case isTrue h => rw [isHopeless_run (s := s.last) h]
  case isFalse =>
    have ha := Node.run_alike text n s.last p (r.moveTo p) r k k rfl hk
    rw [Trial.match?_orTry (o := none) fun _ => rfl, Option.or_none, ha.match?_eq]

-- Outside of loops a failed alternative leaves nothing noted where nothing was before.
theorem bounds_alternative (hs : s.inRound = false) (hr : r.bounds = [])
    (h : (Move.alternative text s n m p r k).matched = false) :
    (Move.alternative text s n m p r k).registers.bounds = [] := by
  unfold Move.alternative at h ⊢
  split at h
  case isTrue hh => rw [if_pos hh]; exact hr
  case isFalse hh =>
    rw [if_neg hh]
    unfold Trial.orTry at h ⊢
    split at h
    case isTrue ht => simp [ht] at h
    case isFalse ht => simp [if_neg ht, Trial.failure, Registers.undo, hs, hr]

/-! ### What all alternatives begin with -/

theorem List.cons_tail_of_mem_head? {as : List α} (h : as.head? = some a) : a :: as.tail = as := by
  cases as
  case nil => contradiction
  case cons => rw [← Option.some.inj h]; rfl

theorem splitCommon_spec (h : Node.splitCommon first rest = (common, alternatives)) :
    (∀ n ∈ common, n.isFlat) ∧ first :: rest = alternatives.map (common ++ ·) := by
  induction first generalizing rest common alternatives
  case nil =>
    cases h
    simp
  case cons n first hi =>
    rw [Node.splitCommon] at h
    split at h
    case isFalse =>
      cases h
      simp
    case isTrue hc =>
      simp only [Bool.and_eq_true, List.all_eq_true, beq_iff_eq] at hc
      cases hs : Node.splitCommon first (rest.map List.tail)
      case mk c as =>
        simp only [hs, Prod.mk.injEq] at h
        have ⟨hf, he⟩ := hi hs
        rw [← h.left, ← h.right]
        refine ⟨List.forall_mem_cons.mpr ⟨hc.left, hf⟩, ?_⟩
        have hr : rest = (rest.map List.tail).map (n :: ·) := by
          have ht : ∀ a ∈ rest, n :: a.tail = a :=
            fun a ha => List.cons_tail_of_mem_head? <| hc.right a ha
          rw [List.map_map]
          exact ((List.map_congr_left ht).trans <| List.map_id' rest).symm
        have hm : as.map (n :: c ++ ·) = (as.map (c ++ ·)).map (n :: ·) := by
          rw [List.map_map]
          rfl
        rw [hm, ← he, List.map_cons, ← hr]

/-! ### Alternatives of one character -/

theorem exists_char_of_mapM {alternatives : List (List Node)}
    (h : alternatives.mapM Node.members? = some sets) : ∀ a ∈ alternatives, ∃ t, a = [.char t] := by
  intro a ha
  have ⟨_, _, hm⟩ := (members?_of_mapM h).left a ha
  have ⟨t, ht⟩ := isMember_of_members? hm
  exact ⟨t, ht.eq⟩

/-! ### Letters that are lost -/

-- The last node is a test for a letter that is lost in a set.
def endsLost (nodes : List Node) : Bool :=
  match nodes.getLast? with
  | some (.char t) => t.isLost
  | _ => false

-- Alternatives that are made one set, after what all of them begin with.
def isMerged : List (List Node) → Bool
  | first :: second :: rest =>
    ((Node.splitCommon first (second :: rest)).2.mapM Node.members?).isSome
  | _ => false

-- The alternatives that are still found once all of them are put together.
def found (alternatives : List (List Node)) : List (List Node) :=
  if isMerged alternatives then alternatives.filter (!endsLost ·) else alternatives

-- Alternatives that are made one set: what they have in common, and one character more for each.
structure Merges (alternatives : List (List Node)) (common : List Node) (parts : List (List Node))
    (sets : List (List SetItem)) : Prop where
  flat : ∀ n ∈ common, n.isFlat
  eq : alternatives = parts.map (common ++ ·)
  members : parts.mapM Node.members? = some sets
  merged : Node.ofAlternatives alternatives =
    common ++ [.char (.set false sets.flatten.eraseDups)]

theorem exists_merges (h : isMerged alternatives) :
    ∃ common parts sets, Merges alternatives common parts sets := by
  match alternatives with
  | [] | [_] => contradiction
  | first :: second :: rest =>
    cases hs : Node.splitCommon first (second :: rest)
    case mk common parts =>
      have ⟨hf, he⟩ := splitCommon_spec hs
      simp only [isMerged, hs] at h
      have ⟨sets, hm⟩ := Option.isSome_iff_exists.mp h
      refine ⟨common, parts, sets, hf, he, hm, ?_⟩
      rw [Node.ofAlternatives, hs]
      case x_1 => exact nofun
      simp only [hm]

namespace Merges

variable {alternatives parts : List (List Node)}

theorem found_eq (h : Merges alternatives common parts sets) (hm : isMerged alternatives) :
    found alternatives = (parts.filter (!endsLost ·)).map (common ++ ·) := by
  rw [found, if_pos hm, h.eq, List.filter_map]
  refine congrArg _ <| List.filter_congr fun a ha => ?_
  have ⟨t, ht⟩ := exists_char_of_mapM h.members a ha
  simp [ht, endsLost]

theorem isFlat (h : Merges alternatives common parts sets) :
    ∀ a ∈ alternatives, ∀ n ∈ a, n.isFlat := by
  rw [h.eq, List.forall_mem_map]
  intro a ha
  have ⟨t, ht⟩ := exists_char_of_mapM h.members a ha
  rw [ht]
  exact List.forall_mem_append.mpr ⟨h.flat, List.forall_mem_singleton.mpr rfl⟩

end Merges

/-! ### Alternatives -/

theorem findSome?_cons_eq_or (f : α → Option β) (a : α) (as : List α) :
    (a :: as).findSome? f = (f a).or (as.findSome? f) := by
  rw [List.findSome?_cons]
  cases f a <;> rfl

theorem findSome?_of_forall {f : α → Option β} {as : List α} (h : ∀ a ∈ as, f a = none ∨ f a = o)
    (he : ∃ a ∈ as, f a = o) : as.findSome? f = o := by
  induction as
  case nil => simp at he
  case cons a as hi =>
    have ⟨ha, h⟩ := List.forall_mem_cons.mp h
    rw [findSome?_cons_eq_or]
    cases o
    case none =>
      have hn : as.findSome? f = none :=
        List.findSome?_eq_none_iff.mpr fun a ha => (h a ha).elim id id
      rw [hn, ha.elim id id]
      rfl
    case some b =>
      cases ha
      case inr ha => rw [ha]; rfl
      case inl ha =>
        rw [ha, Option.none_or]
        refine hi h ?_
        have ⟨e, hm, hb⟩ := he
        refine ⟨e, (List.mem_cons.mp hm).resolve_left fun hea => ?_, hb⟩
        simp [hea, ha] at hb

section

variable [Runtime]

-- What matching nodes one after the other from a place notes, with nothing noted before.
def matchFrom (text : Array Char) (fs : Flags) (k : Rest) (p : Nat) (nodes : List Node) :
    Option (List (Option Nat)) :=
  ((Node.sequence nodes).run text { flags := fs } p {} k).match?

theorem match?_run (hk : k.Alike k) (hr : r.bounds = []) (p : Nat) (nodes : List Node) :
    ((Node.sequence nodes).run text { flags := fs } p r k).match? =
      matchFrom text fs k p nodes :=
  (Node.run_alike text _ _ p r {} k k hr hk).match?_eq

-- The first alternative that matches decides.
theorem match?_anyOf (hk : k.Alike k) (hs : s.last = { flags := fs }) (hr : r.bounds = [])
    (p : Nat) (first second : List Node) (rest : List (List Node)) :
    ((Node.anyOf (first :: second :: rest)).run text s p r k).match? =
      (first :: second :: rest).findSome? (matchFrom text fs k p) := by
  have hi : s.inRound = false := congrArg Setting.inRound hs
  -- One alternative, and whatever is tried after it.
  have ha (nodes : List Node) {r : Registers} (hr : r.bounds = []) :
      (Move.alternative text s (.sequence nodes) ((Node.sequence nodes).run text s.last) p r
        k).match? = matchFrom text fs k p nodes := by
    rw [match?_alternative hk, hs, match?_run hk hr]
  have ho {f : Registers → Trial} {o : Option (List (Option Nat))} (nodes : List Node)
      {r : Registers} (hr : r.bounds = []) (hf : ∀ r, r.bounds = [] → (f r).match? = o) :
      ((Move.alternative text s (.sequence nodes) ((Node.sequence nodes).run text s.last) p r
        k).orTry f).match? = (matchFrom text fs k p nodes).or o := by
    rw [Trial.match?_orTry fun hm => hf _ <| bounds_alternative hi hr hm, ha nodes hr]
  induction rest generalizing first second r
  case nil =>
    have hn : (Node.alt (.sequence first) (.sequence second)).run text s p r k =
        (Move.alternative text s (.sequence first) ((Node.sequence first).run text s.last) p r
          k).orTry fun r =>
            Move.alternative text s (.sequence second) ((Node.sequence second).run text s.last) p r
              k := by
      cases second <;> rfl
    show ((Node.alt (.sequence first) (.sequence second)).run text s p r k).match? = _
    rw [hn, ho first hr fun r hr => ha second hr, findSome?_cons_eq_or, findSome?_cons_eq_or,
      List.findSome?_nil, Option.or_none]
  case cons third rest hi =>
    show ((Move.alternative text s (.sequence first) ((Node.sequence first).run text s.last) p r
      k).orTry fun r => (Node.anyOf (second :: third :: rest)).run text s p r k).match? = _
    rw [ho first hr fun r hr => hi hr second third, ← findSome?_cons_eq_or]

-- A flat node matches in one way or in none, and notes nothing.
theorem run_of_isFlat (h : n.isFlat) (text : Array Char) (fs : Flags) (p : Nat) :
    ∃ o : Option Nat, (∀ groups, ∀ q ∈ o, p + (n.width groups).least ≤ q) ∧
      ∀ (s : Setting) (r : Registers) (k : Rest), s.flags = fs → r.bounds = [] →
        n.run text s p r k = o.elim (.failure r) (k · r) := by
  cases n <;> simp only [Node.isFlat, Bool.false_eq_true] at h
  case char t =>
    refine ⟨if hasCharAt text p (t.accepts fs) then some (p + 1) else none, ?_, ?_⟩
    case refine_1 =>
      intro groups q hq
      split at hq <;> cases hq
      exact Nat.le_refl _
    case refine_2 =>
      rintro s r k rfl _
      rw [Node.run]
      split <;> rfl
  case anchor a =>
    refine ⟨if a.holds text fs p then some p else none, ?_, ?_⟩
    case refine_1 =>
      intro groups q hq
      split at hq <;> cases hq
      exact Nat.le_refl _
    case refine_2 =>
      rintro s r k rfl _
      rw [Node.run]
      split <;> rfl
  case backref i =>
    refine ⟨none, by simp, ?_⟩
    intro s r k _ hr
    have hn : r.span? i = none := by simp [Registers.span?, hr]
    simp only [Node.run, Move.again, hn]
    rfl

theorem matchFrom_cons (h : n.isFlat) (text : Array Char) (fs : Flags) (p : Nat) :
    ∃ o : Option Nat, (∀ groups, ∀ q ∈ o, p + (n.width groups).least ≤ q) ∧
      ∀ k nodes, matchFrom text fs k p (n :: nodes) =
        o.bind fun q => matchFrom text fs k q nodes := by
  have ⟨o, hq, ho⟩ := run_of_isFlat h text fs p
  refine ⟨o, hq, ?_⟩
  intro k nodes
  show (n.run text _ p {} _).match? = _
  rw [ho _ _ _ rfl rfl]
  cases o <;> rfl

-- What is matched first is matched before all of several alternatives, or before one that does
-- their work.
theorem matchFrom_append {alternatives : List (List Node)} (hc : ∀ n ∈ common, n.isFlat)
    (h : ∀ p, matchFrom text fs k p nodes = alternatives.findSome? (matchFrom text fs k p))
    (p : Nat) :
    matchFrom text fs k p (common ++ nodes) =
      (alternatives.map (common ++ ·)).findSome? (matchFrom text fs k p) := by
  induction common generalizing p
  case nil => simpa using h p
  case cons n common hi =>
    have ⟨hn, hc⟩ := List.forall_mem_cons.mp hc
    have ⟨o, _, hs⟩ := matchFrom_cons hn text fs p
    rw [List.cons_append, hs]
    simp only [List.findSome?_map, Function.comp_def, List.cons_append, hs]
    cases o
    case none => exact (List.findSome?_eq_none_iff.mpr fun _ _ => rfl).symm
    case some q _ =>
      have := hi hc q
      simpa [List.findSome?_map, Function.comp_def] using this

theorem matchFrom_char (t : CharTest) (p : Nat) : matchFrom text fs k p [.char t] =
    if hasCharAt text p (t.accepts fs) then (k (p + 1) {}).match? else none := by
  show (Node.run text (.char t) _ p {} _).match? = _
  rw [Node.run]
  split <;> rfl

theorem matchFrom_set {alternatives : List (List Node)} (hi : fs.ignoreCase = true)
    (ha : fs.ascii = false) (h : alternatives.mapM Node.members? = some sets) (p : Nat) :
    matchFrom text fs k p [.char (.set false sets.flatten.eraseDups)] =
      (alternatives.filter (!endsLost ·)).findSome? (matchFrom text fs k p) := by
  have he := exists_char_of_mapM h
  rw [matchFrom_char, hasCharAt]
  cases hc : text[p]?
  case none =>
    refine (List.findSome?_eq_none_iff.mpr fun a ha => ?_).symm
    have ⟨t, ht⟩ := he a <| List.mem_of_mem_filter ha
    simp [ht, matchFrom_char, hasCharAt, hc]
  case some c =>
    have hs := accepts_flatten hi ha h c.toNat
    have hf (t : CharTest) : matchFrom text fs k p [.char t] =
        if t.accepts fs c.toNat then (k (p + 1) {}).match? else none := by
      simp [matchFrom_char, hasCharAt, hc]
    rw [Option.any_some]
    split
    case isTrue hac =>
      have ⟨t, ht, hl, hac⟩ := hs.mp hac
      have hm : [.char t] ∈ alternatives.filter (!endsLost ·) :=
        List.mem_filter.mpr ⟨ht, congrArg not hl⟩
      refine (findSome?_of_forall (fun a ha => ?_) ⟨_, hm, by rw [hf, if_pos hac]⟩).symm
      have ⟨t, ht⟩ := he a <| List.mem_of_mem_filter ha
      rw [ht, hf]
      split
      case isTrue => exact .inr rfl
      case isFalse => exact .inl rfl
    case isFalse hac =>
      refine (List.findSome?_eq_none_iff.mpr fun a ha => ?_).symm
      have ⟨ha, hl⟩ := List.mem_filter.mp ha
      obtain ⟨t, rfl⟩ := he a ha
      have hl : t.isLost = false := by simpa [endsLost] using hl
      rw [hf, if_neg fun ht => hac <| hs.mpr ⟨t, ha, hl, ht⟩]

-- The first alternative that matches decides, out of those that are found.
theorem matchFrom_ofAlternatives (hk : k.Alike k) (hi : fs.ignoreCase = true)
    (ha : fs.ascii = false) (hn : alternatives ≠ []) (p : Nat) :
    matchFrom text fs k p (Node.ofAlternatives alternatives) =
      (found alternatives).findSome? (matchFrom text fs k p) := by
  by_cases hm : isMerged alternatives
  case pos =>
    have ⟨common, parts, sets, h⟩ := exists_merges hm
    rw [h.merged, h.found_eq hm]
    exact matchFrom_append h.flat (matchFrom_set hi ha h.members) p
  case neg =>
    rw [found, if_neg hm]
    match alternatives with
    | [] => contradiction
    | [only] => simp [Node.ofAlternatives]
    | first :: second :: rest =>
      cases hs : Node.splitCommon first (second :: rest)
      case mk common parts =>
        have ⟨hf, he⟩ := splitCommon_spec hs
        simp only [isMerged, hs, Bool.not_eq_true, Option.isSome_eq_false_iff,
          Option.isNone_iff_eq_none] at hm
        rw [Node.ofAlternatives, hs, he]
        case x_1 => exact nofun
        refine matchFrom_append hf ?_ p
        intro p
        simp only [hm]
        match parts with
        | [] => contradiction
        | [_] => simp at he
        | a :: b :: parts =>
          have hs : Setting.last { flags := fs, next := [(fs, .empty)] } = { flags := fs } := rfl
          exact match?_anyOf hk hs rfl p a b parts

end

/-! ### Widths -/

namespace Node

variable {groups : Nat → Width}

-- The least number of characters that nodes match one after the other.
def leastOf (groups : Nat → Width) (nodes : List Node) : Nat :=
  ((sequence nodes).width groups).least

theorem le_leastOf_cons_iff :
    m ≤ leastOf groups (n :: nodes) ↔
      m - (n.width groups).least ≤ leastOf groups nodes ∧ m < Width.limit := by
  have hl : 1 < Width.limit := by decide
  have he : leastOf groups (n :: nodes) =
      min ((n.width groups).least + leastOf groups nodes) (Width.limit - 1) := rfl
  omega

theorem leastOf_lt_limit (nodes : List Node) : leastOf groups nodes < Width.limit := by
  have hl : 1 < Width.limit := by decide
  cases nodes
  case nil => exact Nat.zero_lt_of_lt hl
  case cons => exact Nat.lt_of_le_of_lt (Nat.min_le_right _ _) (Nat.sub_one_lt_of_lt hl)

theorem leastOf_singleton (h : (n.width groups).least < Width.limit) :
    leastOf groups [n] = (n.width groups).least := by
  have he : leastOf groups [n] = min ((n.width groups).least + 0) (Width.limit - 1) := rfl
  omega

theorem le_anyOf_least_iff {alternatives : List (List Node)} (hn : alternatives ≠ []) :
    m ≤ ((anyOf alternatives).width groups).least ↔
      ∀ a ∈ alternatives, m ≤ leastOf groups a := by
  induction alternatives
  case nil => contradiction
  case cons a alternatives hi =>
    cases alternatives
    case nil => simp [anyOf, leastOf]
    case cons b alternatives =>
      have hi := hi <| List.cons_ne_nil _ _
      rw [List.forall_mem_cons, ← hi, leastOf, anyOf]
      case x_1 => exact nofun
      exact le_min_iff

theorem le_leastOf_append_iff {alternatives : List (List Node)} (hn : alternatives ≠ [])
    (h : ∀ m, m ≤ leastOf groups nodes ↔ ∀ a ∈ alternatives, m ≤ leastOf groups a)
    (common : List Node) (m : Nat) :
    m ≤ leastOf groups (common ++ nodes) ↔
      ∀ a ∈ alternatives, m ≤ leastOf groups (common ++ a) := by
  induction common generalizing m
  case nil => exact h m
  case cons n common hi =>
    have ⟨a, ha⟩ := List.exists_mem_of_ne_nil _ hn
    simp only [List.cons_append, le_leastOf_cons_iff, hi]
    constructor
    case mp => exact fun h a ha => ⟨h.left a ha, h.right⟩
    case mpr => exact fun h => ⟨fun a ha => (h a ha).left, (h a ha).right⟩

theorem leastOf_char (t : CharTest) : leastOf groups [char t] = 1 := by
  have hl : 1 < Width.limit := by decide
  exact leastOf_singleton hl

theorem le_leastOf_char_iff {alternatives : List (List Node)} (hn : alternatives ≠ [])
    (h : ∀ a ∈ alternatives, ∃ t, a = [char t]) (t : CharTest) :
    m ≤ leastOf groups [char t] ↔ ∀ a ∈ alternatives, m ≤ leastOf groups a := by
  have hc : ∀ a ∈ alternatives, leastOf groups a = 1 := by
    intro a ha
    have ⟨t, ht⟩ := h a ha
    rw [ht, leastOf_char]
  have ⟨a, ha⟩ := List.exists_mem_of_ne_nil _ hn
  rw [leastOf_char]
  constructor
  case mp =>
    intro h a ha
    rwa [hc a ha]
  case mpr =>
    intro h
    have := h a ha
    rwa [hc a ha] at this

theorem least_anyOf_lt_limit (hn : alternatives ≠ []) :
    ((anyOf alternatives).width groups).least < Width.limit := by
  have ⟨a, ha⟩ := List.exists_mem_of_ne_nil _ hn
  exact Nat.lt_of_le_of_lt (le_anyOf_least_iff hn |>.mp le_rfl a ha) (leastOf_lt_limit a)

theorem le_leastOf_ofAlternatives_iff {alternatives : List (List Node)} (hn : alternatives ≠ []) :
    m ≤ leastOf groups (ofAlternatives alternatives) ↔
      ∀ a ∈ alternatives, m ≤ leastOf groups a := by
  match alternatives with
  | [] => contradiction
  | [only] => simp [ofAlternatives]
  | first :: second :: rest =>
    cases hs : splitCommon first (second :: rest)
    case mk common parts =>
      have ⟨_, he⟩ := splitCommon_spec hs
      have hp : parts ≠ [] := by
        rintro rfl
        contradiction
      rw [ofAlternatives, hs, he, List.forall_mem_map]
      case x_1 => exact nofun
      refine le_leastOf_append_iff hp (fun m => ?_) common m
      split
      case h_1 sets hm => exact le_leastOf_char_iff hp (exists_char_of_mapM hm) _
      case h_2 =>
        rw [leastOf_singleton <| least_anyOf_lt_limit hp]
        exact le_anyOf_least_iff hp

end Node

/-! ### Lookbehinds -/

namespace Node

theorem mem_lookbehinds_sequence_iff :
    w ∈ (sequence nodes).lookbehinds ↔ ∃ n ∈ nodes, w ∈ n.lookbehinds := by
  induction nodes
  case nil => simp [sequence, lookbehinds]
  case cons n nodes hi =>
    have he : (sequence (n :: nodes)).lookbehinds =
        n.lookbehinds ++ (sequence nodes).lookbehinds := rfl
    simp [he, hi]

theorem mem_lookbehinds_anyOf_iff :
    w ∈ (anyOf alternatives).lookbehinds ↔ ∃ a ∈ alternatives, ∃ n ∈ a, w ∈ n.lookbehinds := by
  induction alternatives
  case nil => simp [anyOf, lookbehinds]
  case cons a alternatives hi =>
    cases alternatives
    case nil => simp [anyOf, mem_lookbehinds_sequence_iff]
    case cons b alternatives =>
      rw [anyOf, lookbehinds, List.mem_append, hi, mem_lookbehinds_sequence_iff]
      case x_1 => exact nofun
      simp

theorem lookbehinds_of_isFlat (h : n.isFlat) : n.lookbehinds = [] := by
  cases n <;> simp only [isFlat, Bool.false_eq_true] at h <;> rfl

theorem mem_lookbehinds_ofAlternatives_iff :
    w ∈ (sequence (ofAlternatives alternatives)).lookbehinds ↔
      ∃ a ∈ alternatives, ∃ n ∈ a, w ∈ n.lookbehinds := by
  rw [mem_lookbehinds_sequence_iff]
  rcases alternatives with _ | ⟨first, _ | ⟨second, rest⟩⟩
  case nil => simp [ofAlternatives]
  case cons.nil => simp [ofAlternatives]
  case cons.cons =>
    cases hs : splitCommon first (second :: rest)
    case mk common parts =>
      obtain ⟨hf, he⟩ := splitCommon_spec hs
      have hc : ¬∃ n ∈ common, w ∈ n.lookbehinds := by
        rintro ⟨n, hn, hw⟩
        simp [lookbehinds_of_isFlat (hf n hn)] at hw
      have hm (nodes : List Node) : (∃ n ∈ common ++ nodes, w ∈ n.lookbehinds) ↔
          ∃ n ∈ nodes, w ∈ n.lookbehinds := by
        simp only [List.mem_append, or_and_right, exists_or, hc, false_or]
      rw [ofAlternatives, hs, he]
      case x_1 => simp
      simp only [hm, List.mem_singleton, exists_eq_left, List.mem_map, exists_exists_and_eq_and]
      split
      case h_1 sets hm =>
        have hn : ¬∃ a ∈ parts, ∃ n ∈ a, w ∈ n.lookbehinds := by
          rintro ⟨a, ha, n, hn, hw⟩
          obtain ⟨t, rfl⟩ := exists_char_of_mapM hm a ha
          simp [List.mem_singleton.mp hn, lookbehinds] at hw
        simp [lookbehinds, hn]
      case h_2 => exact mem_lookbehinds_anyOf_iff

end Node

theorem Program.checkLookbehinds_congr (h : ∀ w, w ∈ a.lookbehinds ↔ w ∈ b.lookbehinds) :
    checkLookbehinds a = checkLookbehinds b := by
  have ha (f : Width → Bool) : a.lookbehinds.any f = b.lookbehinds.any f := by
    rw [Bool.eq_iff_iff]
    simp [h]
  simp [checkLookbehinds, ha]

end StepCatalog.Regex
