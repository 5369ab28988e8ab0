import Mathlib
import StepCatalog.CommandLine.Options
import StepCatalog.Proofs.Outcome

namespace StepCatalog.CommandLine

variable {specs : List OptionSpec}

/-! ### Arguments -/

-- An argument that is taken for an option is taken for one of those there are.
def Arg.IsKnown (specs : List OptionSpec) (a : Arg) : Prop :=
  ∀ o name attached, a = .option o name attached → o ∈ specs

theorem mem_of_named (h : named specs name = some o) : o ∈ specs :=
  List.mem_of_find?_eq_some h

theorem mem_of_mem_allNames (h : (name, o) ∈ allNames specs) : o ∈ specs := by
  have ⟨_, hs, h⟩ := List.mem_flatMap.mp h
  have ⟨_, _, he⟩ := List.mem_map.mp h
  cases he
  exact hs

theorem mem_of_mem_longMatches (h : (name, o, attached) ∈ longMatches specs arg) : o ∈ specs := by
  have ⟨⟨_, _⟩, hn, h⟩ := List.mem_filterMap.mp h
  dsimp only at h
  split_ifs at h
  cases Option.some.inj h
  exact mem_of_mem_allNames hn

theorem mem_of_mem_shortMatches (h : (name, o, attached) ∈ shortMatches specs arg) : o ∈ specs := by
  have ⟨⟨_, _⟩, hn, h⟩ := List.mem_filterMap.mp h
  dsimp only at h
  split_ifs at h <;> cases Option.some.inj h <;> exact mem_of_mem_allNames hn

theorem classify_isKnown (h : classify specs arg = .ok a) : a.IsKnown specs := by
  rintro o name attached rfl
  unfold classify at h
  split at h
  case h_2 => cases h
  case h_1 second rest _ =>
    dsimp only at h
    split at h
    case h_1 hn => cases h; exact mem_of_named hn
    case h_2 hn => cases h; exact mem_of_named hn
    case h_3 =>
      split at h
      case h_1 => split at h <;> cases h
      case h_3 => cases h
      case h_2 hm =>
        cases h
        split at hm
        case isTrue => exact mem_of_mem_longMatches <| hm ▸ List.mem_singleton_self _
        case isFalse => exact mem_of_mem_shortMatches <| hm ▸ List.mem_singleton_self _

theorem classifyAll_isKnown (h : classifyAll specs args = .ok as) : ∀ a ∈ as, a.IsKnown specs := by
  induction args generalizing as
  case nil => cases h; nofun
  case cons arg rest hi =>
    rw [classifyAll] at h
    split at h
    case isTrue =>
      cases h
      refine List.forall_mem_cons.mpr ⟨nofun, ?_⟩
      intro a ha
      have ⟨_, _, he⟩ := List.mem_map.mp ha
      exact he ▸ nofun
    case isFalse =>
      have ⟨a, ha, h⟩ := bind_eq_ok_iff.mp h
      have ⟨as, has, h⟩ := bind_eq_ok_iff.mp h
      cases h
      exact List.forall_mem_cons.mpr ⟨classify_isKnown ha, hi has⟩

/-! ### Values -/

-- An option with a letter for its name, so that it can stand among flags.
def OptionSpec.HasLetter (o : OptionSpec) : Prop := ∃ name ∈ o.names, name.length = 2

-- What can stand among flags takes no value, or it has a letter for its name.
def IsFlag (specs : List OptionSpec) (o : OptionSpec) : Prop :=
  o ∈ specs ∧ (o.kind.takesValue → o.HasLetter)

theorem isFlag_of_named (h : named specs (String.ofList ['-', c]) = some o) : IsFlag specs o := by
  have hn := List.find?_some
    (p := fun o : OptionSpec => o.names.contains (String.ofList ['-', c])) h
  exact ⟨mem_of_named h, fun _ => ⟨_, List.contains_iff_mem.mp hn, String.length_ofList⟩⟩

variable [Runtime]

-- A value is one of an option if it says an integer where that is what the option takes. What takes
-- values is given one by a runtime that keeps dashes, except among flags.
structure OptionSpec.Takes (o : OptionSpec) (v : OptionValue) : Prop where
  integer : o.kind = .integer → ∀ s, v = .text s → ∃ n, Text.readInteger s.toList = .ok n
  given : Runtime.keepsDashes → o.kind.takesValue → v = .nothing → o.HasLetter

namespace Parsed

-- Every value that has been collected is one of an option there is.
def Fits (specs : List OptionSpec) (p : Parsed) : Prop :=
  ∀ x ∈ p.values, ∃ o ∈ specs, o.key = x.1 ∧ o.Takes x.2

variable {p q : Parsed}

theorem Fits.add (hp : p.Fits specs) (ho : o ∈ specs) (hv : o.Takes v) : (p.add o v).Fits specs :=
  List.forall_mem_append.mpr ⟨hp, List.forall_mem_singleton.mpr ⟨o, ho, rfl, hv⟩⟩

theorem Fits.setFlag (hp : p.Fits specs) (ho : IsFlag specs o) : (p.setFlag o).Fits specs := by
  unfold Parsed.setFlag
  split
  case isTrue => exact hp
  case isFalse => exact hp.add ho.left ⟨fun _ => nofun, fun _ ht _ => ho.right ht⟩

theorem Fits.setFlags (hp : p.Fits specs) (ho : ∀ o ∈ os, IsFlag specs o) :
    (p.setFlags os).Fits specs := by
  induction os generalizing p
  case nil => exact hp
  case cons o os hi =>
    have ⟨ho, hos⟩ := List.forall_mem_cons.mp ho
    rw [Parsed.setFlags]
    split
    case isTrue => exact hp
    case isFalse => exact hi (hp.setFlag ho) hos

theorem Fits.setValue (hp : p.Fits specs) (ho : o ∈ specs)
    (hv : Runtime.keepsDashes → v ≠ .nothing) (h : p.setValue o v = .ok q) : q.Fits specs := by
  have hg : Runtime.keepsDashes → o.kind.takesValue → v = .nothing → o.HasLetter :=
    fun hk _ he => absurd he <| hv hk
  unfold Parsed.setValue at h
  split at h
  case h_1 s _ =>
    split at h
    case isTrue => contradiction
    case isFalse hr =>
      cases h
      refine hp.add ho ⟨?_, hg⟩
      rintro _ _ ⟨⟩
      cases hs : Text.readInteger s.toList
      case ok n => exact ⟨n, rfl⟩
      case error => simp [hs, Except.toOption] at hr
  case h_2 hn =>
    cases h
    exact hp.add ho ⟨fun hk s hs => (hn s hk hs).elim, hg⟩

theorem ofAttached_ne_nothing (hk : Runtime.keepsDashes) (value : List Char) :
    OptionValue.ofAttached value ≠ .nothing := by
  simp [OptionValue.ofAttached, hk]

theorem isFlag_of_grouped (ho : IsFlag specs o) (h : grouped specs o cs = .ok (os, left)) :
    ∀ x ∈ os, IsFlag specs x := by
  induction cs generalizing o os <;> rw [grouped] at h
  case nil => cases h; exact List.forall_mem_singleton.mpr ho
  case cons c cs hi =>
    split at h
    case h_1 =>
      split_ifs at h
      cases h
      exact List.forall_mem_singleton.mpr ho
    case h_2 hn =>
      split_ifs at h
      obtain ⟨⟨_, _⟩, hr, he⟩ := map_eq_ok_iff.mp h
      cases he
      exact List.forall_mem_cons.mpr ⟨ho, hi (isFlag_of_named hn) hr⟩

theorem Fits.setAttached (hp : p.Fits specs) (ho : o ∈ specs)
    (h : p.setAttached specs o name a = .ok q) : q.Fits specs := by
  unfold Parsed.setAttached at h
  split_ifs at h
  case pos => exact hp.setValue ho (fun hk => ofAttached_ne_nothing hk _) h
  case neg ht _ =>
    obtain ⟨⟨os, left⟩, hg, h⟩ := bind_eq_ok_iff.mp h
    have hf := hp.setFlags <| isFlag_of_grouped ⟨ho, fun h => absurd h ht⟩ hg
    cases h
    split
    case isTrue => exact hf
    case isFalse => exact hf

theorem collect_flag (ht : ¬o.kind.takesValue) :
    collect specs p (.option o name none :: rest) =
      if (p.setFlag o).help then .ok (p.setFlag o) else collect specs (p.setFlag o) rest := by
  rw [Parsed.collect.eq_def]
  simp only [ht]
  rfl

theorem Fits.collect (hp : p.Fits specs) (ha : ∀ a ∈ as, a.IsKnown specs)
    (h : collect specs p as = .ok q) : q.Fits specs := by
  induction p, as using Parsed.collect.induct
  case case1 => cases h; exact hp
  case case2 hi | case3 hi =>
    rw [Parsed.collect] at h
    exact hi hp (List.forall_mem_cons.mp ha).right h
  case case4 p o name value rest hi =>
    have ⟨ho, ha⟩ := List.forall_mem_cons.mp ha
    rw [Parsed.collect] at h
    have ⟨r, hr, h⟩ := bind_eq_ok_iff.mp h
    have hf := hp.setAttached (ho _ _ _ rfl) hr
    split at h
    case isTrue => cases h; exact hf
    case isFalse => exact hi r hf ha h
  case case5 p o name ht value rest hi =>
    have ⟨ho, ha⟩ := List.forall_mem_cons.mp ha
    have ⟨_, ha⟩ := List.forall_mem_cons.mp ha
    rw [Parsed.collect, if_pos ht] at h
    have ⟨r, hr, h⟩ := bind_eq_ok_iff.mp h
    exact hi r (hp.setValue (ho _ _ _ rfl) (fun _ => OptionValue.noConfusion) hr) ha h
  case case6 p o name rest ht hn =>
    rw [Parsed.collect.eq_6 _ _ _ _ _ hn, if_pos ht] at h
    contradiction
  case case7 p o name rest ht _ hh =>
    rw [collect_flag ht, if_pos hh] at h
    cases h
    exact hp.setFlag ⟨(List.forall_mem_cons.mp ha).left _ _ _ rfl, fun h => absurd h ht⟩
  case case8 p o name rest ht _ hh hi =>
    have ⟨ho, ha⟩ := List.forall_mem_cons.mp ha
    rw [collect_flag ht, if_neg hh] at h
    exact hi (hp.setFlag ⟨ho _ _ _ rfl, fun h => absurd h ht⟩) ha h

end Parsed

theorem parse_fits (h : parse specs args = .ok p) : p.Fits (helpOption :: specs) := by
  have ⟨as, ha, h⟩ := bind_eq_ok_iff.mp h
  have ⟨r, hr, h⟩ := bind_eq_ok_iff.mp h
  have hf : r.Fits (helpOption :: specs) :=
    Parsed.Fits.collect (p := {}) nofun (classifyAll_isKnown ha) hr
  -- What is checked after that changes nothing.
  have he : r = p := by
    dsimp only at h
    split_ifs at h <;> cases h <;> rfl
  exact he ▸ hf

-- The values of an option that takes integers are integers, if they say anything.
theorem readInteger_of_mem_all (hk : ∀ o ∈ helpOption :: specs, o.key = key → o.kind = .integer)
    (h : parse specs args = .ok p) (hs : .text s ∈ p.all key) :
    ∃ n, Text.readInteger s.toList = .ok n := by
  simp only [Parsed.all, List.mem_map, List.mem_filter, beq_iff_eq] at hs
  obtain ⟨x, ⟨hx, hn⟩, he⟩ := hs
  have ⟨o, ho, hx', ht⟩ := parse_fits h x hx
  exact ht.integer (hk o ho <| hx'.trans hn) s he

-- A runtime that keeps dashes gives a value to every option that takes one.
theorem nothing_notMem_all (hd : Runtime.keepsDashes)
    (hk : ∀ o ∈ helpOption :: specs, o.key = key →
      o.kind.takesValue ∧ ∀ name ∈ o.names, name.length ≠ 2)
    (h : parse specs args = .ok p) : .nothing ∉ p.all key := by
  simp only [Parsed.all, List.mem_map, List.mem_filter, beq_iff_eq]
  rintro ⟨x, ⟨hx, hn⟩, he⟩
  have ⟨o, ho, hx', ht⟩ := parse_fits h x hx
  have ⟨hv, hl⟩ := hk o ho <| hx'.trans hn
  have ⟨name, hm, hs⟩ := ht.given hd hv he
  exact hl name hm hs

end StepCatalog.CommandLine
