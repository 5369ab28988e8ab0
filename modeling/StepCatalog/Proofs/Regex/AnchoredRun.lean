import Mathlib
import StepCatalog.Proofs.Regex.AnchoredReader

namespace StepCatalog.Regex.Reader

open Anchoring

variable {w : Anchoring} {st : Reader}

/-! ### Flags -/

-- Letters of flags, and the parenthesis after them.
def ListsFlags (ts : List Token) : Prop :=
  ∃ letters rest, letters ≠ [] ∧ (∀ c ∈ letters, (Flag.ofLetter? c).isSome) ∧
    ts = letters.map .plain ++ .plain ')' :: rest

-- Flags for the whole pattern, where the reader stands before a group.
structure IsFlagGroup (st : Reader) (t : Token) (ts : List Token) : Prop where
  openSet : st.openSet = none
  parenthesis : t = .plain '('
  letters : ∃ rest, ts = .plain '?' :: rest ∧ ListsFlags rest

theorem exists_letters_of_readFlagsOn (h : readFlagsOn on ts = .ok (on', c, rest)) :
    ∃ letters, (∀ c ∈ letters, (Flag.ofLetter? c).isSome) ∧
      ts = letters.map .plain ++ .plain c :: rest ∧ (on = [] → letters ≠ []) := by
  induction ts generalizing on
  case nil => contradiction
  case cons t ts hi =>
    cases t
    case escaped => contradiction
    case plain d =>
      rw [readFlagsOn] at h
      cases hd : Flag.ofLetter? d <;> simp only [hd] at h
      case none =>
        split at h
        case isFalse => contradiction
        case isTrue hc =>
          cases h
          exact ⟨[], List.forall_mem_nil _, rfl, fun he => absurd he hc.left⟩
      case some f =>
        split at h
        case isTrue => contradiction
        case isFalse =>
          split at h
          case isTrue => contradiction
          case isFalse =>
            obtain ⟨letters, hl, he, _⟩ := hi h
            refine ⟨d :: letters, ?_, by rw [he]; rfl, fun _ => List.cons_ne_nil _ _⟩
            exact List.forall_mem_cons.mpr ⟨by rw [hd]; rfl, hl⟩

theorem readFlagsOn_of_letters {letters : List Char} (hl : ∀ c ∈ letters, (Flag.ofLetter? c).isSome)
    (h : readFlagsOn on (letters.map .plain ++ .plain ')' :: rest) = .ok (on', c, ts)) :
    c = ')' := by
  induction letters generalizing on
  case nil =>
    have hn : Flag.ofLetter? ')' = none := by simp [Flag.ofLetter?]
    simp only [List.map_nil, List.nil_append, readFlagsOn, hn] at h
    split at h
    case isFalse => cases h
    case isTrue => exact (Prod.mk.inj (Prod.mk.inj (Except.ok.inj h)).right).left.symm
  case cons d letters hi =>
    obtain ⟨hd, hl⟩ := List.forall_mem_cons.mp hl
    obtain ⟨f, hf⟩ := Option.isSome_iff_exists.mp hd
    simp only [List.map_cons, List.cons_append, readFlagsOn, hf] at h
    split at h
    case isTrue => contradiction
    case isFalse =>
      split at h
      case isTrue => contradiction
      case isFalse => exact hi hl h

theorem openFlags_lifts (h : w.Grounded st) (hl : ¬ListsFlags ts) (start : Nat) :
    Lifts w.StepsIn (st.openFlags start ts)
      ((w.reader st).openFlags (start + w.offset) (ts ++ w.tail)) := by
  obtain _ | ⟨c | _, ts⟩ := ts <;> try exact .error _ _
  case cons.plain =>
    simp only [openFlags, List.cons_append]
    split
    case h_1 he =>
      obtain ⟨⟨⟩, rfl⟩ := he
      refine (readFlagsOff_lifts [] ts).bind ?_
      rintro ⟨off, ts⟩ _ rfl
      exact openScoped_lifts h _ _ _ _
    case h_2 hn =>
      split
      case h_1 => simp_all
      case h_2 =>
        refine (readFlagsOn_lifts [] (.plain c :: ts)).bind_of_ok ?_
        rintro ⟨on, mark, rest⟩ _ hr rfl
        have hm : mark ≠ ')' := by
          rintro rfl
          have ⟨letters, hc, he, hn⟩ := exists_letters_of_readFlagsOn hr
          exact hl ⟨letters, rest, hn rfl, hc, he⟩
        dsimp only
        rw [if_neg hm, if_neg hm]
        refine .ite (fun _ => .error _ _) fun _ => ?_
        refine .ite (fun _ => openScoped_lifts h _ _ _ _) fun _ => ?_
        refine (readFlagsOff_lifts [] rest).bind ?_
        rintro ⟨off, ts⟩ _ rfl
        exact openScoped_lifts h _ _ _ _

-- They can only be set before anything else has been read.
theorem opening_of_setGlobalFlags {start : Nat} (h : st.setGlobalFlags on start = .ok st') :
    st.frame.opening = .whole ∧ st.frame.done = [] ∧ st.frame.pieces = [] := by
  unfold setGlobalFlags at h
  split at h
  case isTrue hs => exact hs
  case isFalse => contradiction

theorem opening_of_openFlags {start : Nat} (hl : ListsFlags ts)
    (h : st.openFlags start ts = .ok r) :
    st.frame.opening = .whole ∧ st.frame.done = [] ∧ st.frame.pieces = [] := by
  obtain ⟨_ | ⟨c, letters⟩, rest, hn, hc, rfl⟩ := hl
  case nil => contradiction
  case cons =>
    rw [List.map_cons, List.cons_append, openFlags] at h
    case x_1 =>
      rintro _ ⟨⟩
      simp [Flag.ofLetter?] at hc
    cases hr : readFlagsOn [] (.plain c :: (letters.map .plain ++ .plain ')' :: rest)) <;>
      rw [hr] at h
    case error => contradiction
    case ok flags =>
      obtain ⟨on, mark, ts⟩ := flags
      replace h : (if mark = ')' then (st.setGlobalFlags on start).map (·, ts) else _) = .ok r := h
      rw [if_pos <| readFlagsOn_of_letters hc hr] at h
      cases hs : st.setGlobalFlags on start <;> rw [hs] at h
      case error => contradiction
      case ok => exact opening_of_setGlobalFlags hs

/-! ### Kinds of groups -/

theorem openExtended_of_flags (h : c = '-' ∨ (Flag.ofLetter? c).isSome) (start : Nat)
    (ts : List Token) :
    st.openExtended start (.plain c :: ts) = st.openFlags start (.plain c :: ts) := by
  unfold openExtended
  split
  case h_10 he =>
    obtain ⟨rfl, rfl⟩ := List.cons.inj he
    exact if_pos (by simpa [Token.isPlain] using h)
  case h_1 => contradiction
  -- No other kind of group is given by a hyphen or by the letter of a flag.
  all_goals
    rename_i he
    obtain ⟨⟨⟩, rfl⟩ := List.cons.inj he
    simp [Flag.ofLetter?] at h

theorem openExtended_lifts (h : w.Grounded st) (hl : ¬ListsFlags ts) (start : Nat) :
    Lifts w.StepsIn (st.openExtended start ts)
      ((w.reader st).openExtended (start + w.offset) (ts ++ w.tail)) := by
  by_cases hc : ∃ c us, ts = .plain c :: us ∧ (c = '-' ∨ (Flag.ofLetter? c).isSome)
  case pos =>
    have ⟨c, us, he, hc⟩ := hc
    rw [he, List.cons_append, openExtended_of_flags hc, openExtended_of_flags hc,
      ← List.cons_append, ← he]
    exact openFlags_lifts h hl start
  case neg =>
    unfold openExtended
    rw [reader_verbose]
    have ho (opening : Opening) (ho : opening ≠ .whole) (ts : List Token) :
        Lifts w.StepsIn
          (.ok (st.openFrame opening start st.frame.verbose, ts))
          (.ok ((w.reader st).openFrame opening (start + w.offset) st.frame.verbose,
            ts ++ w.tail)) :=
      .ok ⟨openFrame_readsIn h ho start _, rfl⟩
    split
    case h_1 => exact .error _ _
    case h_2 => exact ho _ (by nofun) _
    case h_3 => exact ho _ (by nofun) _
    case h_4 => exact skipComment_lifts h _ _ _
    case h_5 => exact ho _ (by nofun) _
    case h_6 => exact ho _ (by nofun) _
    case h_7 => exact openConditional_lifts h _ _
    case h_8 =>
      split
      case h_1 => exact .error _ _
      case h_2 => exact .ok ⟨openBehind_readsIn h _ _, rfl⟩
      case h_3 => exact .ok ⟨openBehind_readsIn h _ _, rfl⟩
      case h_4 => exact .error _ _
    case h_9 =>
      split
      case h_1 => exact .error _ _
      case h_2 => exact openNamed_lifts h _ _
      case h_3 => exact namedBackref_lifts h _
      case h_4 => exact .error _ _
    case h_10 t rest _ _ _ _ _ _ _ _ =>
      obtain c | c := t
      case escaped => exact .error _ _
      case plain =>
        have hn : ¬(Token.plain c).isPlain fun c => c = '-' || (Flag.ofLetter? c).isSome :=
          fun ht => hc ⟨c, rest, rfl, by simpa [Token.isPlain] using ht⟩
        rw [if_neg hn]
        exact .error _ _

theorem openGroup_lifts (h : w.Grounded st)
    (hg : ¬∃ rest, ts = .plain '?' :: rest ∧ ListsFlags rest) :
    Lifts w.StepsIn (st.openGroup ts) ((w.reader st).openGroup (ts ++ w.tail)) := by
  simp only [openGroup, extent_add]
  split
  case h_1 rest => exact openExtended_lifts h (fun hl => hg ⟨rest, rfl, hl⟩) _
  case h_2 hn =>
    split
    case h_1 he => exact absurd he <| append_ne_cons (by decide) hn
    case h_2 => exact .ok ⟨openCapture_readsIn h _, rfl⟩

/-! ### Closing groups -/

def isBehind : Opening → Bool
  | .behind _ => true
  | _ => false

theorem settle_eq (st : Reader) (f : Frame) : st.settle f =
    { st with
      widths := (st.settle f).widths, lookbehindFrom := (st.settle f).lookbehindFrom } := by
  unfold settle
  split
  case h_2 => split <;> rfl
  all_goals rfl

theorem settle_behind (st : Reader) (h : f.opening = .behind negated) : st.settle f =
    if st.outer.any (isBehind ·.opening) then st else { st with lookbehindFrom := none } := by
  simp only [settle, h]
  rfl

theorem settle_reader (st : Reader) (f : Frame) (i : Nat) :
    (w.reader st).settle { f with start := i } =
      { w.reader st with
        widths := (st.settle f).widths, lookbehindFrom := (st.settle f).lookbehindFrom } := by
  cases hf : f.opening
  case behind =>
    have ha : (w.reader st).outer.any (isBehind ·.opening) =
        st.outer.any (isBehind ·.opening) := any_frames isBehind st.outer
    rw [settle_behind st hf, settle_behind (w.reader st) rfl, ha]
    cases st.outer.any (isBehind ·.opening) <;> rfl
  all_goals simp only [settle, hf]; rfl

theorem closeGroup_lifts (h : w.Grounded st) (ts : List Token) :
    Lifts w.StepsIn (st.closeGroup ts) ((w.reader st).closeGroup (ts ++ w.tail)) := by
  cases ho : st.outer
  case nil => simp only [closeGroup, ho]; exact .error _ _
  case cons parent outer =>
    have hs := h.stands
    have hf := reader_frame_of_cons (w := w) ho
    have hr : (w.reader st).outer = w.frame outer parent :: w.frames outer := by
      simp only [reader, ho, frames]
    rw [ho] at hs
    simp only [closeGroup, ho, hr, hf, settle_reader]
    refine .ok ⟨⟨⟨?_, hs.right.push _⟩, ?_⟩, rfl⟩
    case refine_1 => rw [settle_eq]; exact h.flags
    case refine_2 =>
      rw [settle_eq]
      simp only [reader, frame_push]
      rfl

theorem nextAlternative_of_whole (h : st.frame.opening = .whole) (ts : List Token) :
    st.nextAlternative ts = .ok ({ st with frame := nextOf st.frame }, ts) := by
  simp only [nextAlternative, h, nextOf]

theorem nextAlternative_lifts (h : w.Grounded st) (ts : List Token) :
    Lifts w.StepsIn (st.nextAlternative ts) ((w.reader st).nextAlternative (ts ++ w.tail)) := by
  have hs := h.stands
  cases ho : st.outer <;> rw [ho] at hs
  case nil =>
    have hf := reader_frame_of_nil (w := w) ho
    have hb : (w.reader st).frame.opening = .whole :=
      (frame_opening st.outer _).trans hs.opening
    rw [nextAlternative_of_whole hs.opening, nextAlternative_of_whole hb, hf, ← base_nextOf]
    refine .ok ⟨⟨⟨h.flags, ?_⟩, ?_⟩, rfl⟩
    case refine_1 =>
      rw [ho]
      exact hs.replace rfl rfl <| .inl <| List.cons_ne_nil _ _
    case refine_2 =>
      simp only [reader, ho]
      rfl
  case cons =>
    have hf := reader_frame_of_cons (w := w) ho
    simp only [nextAlternative, hf]
    split
    case h_1 => exact .error _ _
    case h_2 =>
      refine .ok ⟨⟨⟨h.flags, ?_⟩, ?_⟩, rfl⟩
      case refine_1 =>
        rw [ho]
        exact ⟨by simp, hs.right⟩
      case refine_2 =>
        simp only [reader, ho]
        rfl
    case h_3 =>
      refine .ok ⟨⟨⟨h.flags, ?_⟩, ?_⟩, rfl⟩
      case refine_1 =>
        rw [ho]
        exact hs
      case refine_2 =>
        simp only [reader, ho]
        rfl

/-! ### Steps -/

theorem stepPlain_lifts (h : w.Grounded st) (c : Char) (ts : List Token)
    (hg : ¬IsFlagGroup st (.plain c) ts) (hs : st.openSet = none) :
    Lifts w.StepsIn (st.stepPlain c ts) ((w.reader st).stepPlain c (ts ++ w.tail)) := by
  unfold stepPlain
  dsimp only
  split
  case h_1 => exact nextAlternative_lifts h ts
  case h_2 => exact closeGroup_lifts h ts
  case h_3 => exact openGroup_lifts h fun hl => hg ⟨hs, rfl, hl⟩
  case h_4 => exact StepsIn.push h
  case h_5 => exact StepsIn.push h
  case h_6 => exact StepsIn.push h
  case h_7 => exact repeatLast_lifts h _ _ _ _ _
  case h_8 => exact repeatLast_lifts h _ _ _ _ _
  case h_9 => exact repeatLast_lifts h _ _ _ _ _
  case h_10 =>
    rw [readBounds?_append]
    cases readBounds? ts
    case none => exact StepsIn.push h
    case some b =>
      refine (readQuantifier_lifts b.1 b.2.1 ts _).bind ?_
      rintro q _ rfl
      exact repeatLast_lifts h _ _ _ _ _
  case h_11 =>
    rw [extent_add]
    split
    case h_1 => exact .ok ⟨⟨⟨h.flags, h.stands⟩, rfl⟩, rfl⟩
    case h_2 hn =>
      split
      case h_1 he => exact absurd he <| append_ne_cons (by decide) hn
      case h_2 => exact .ok ⟨⟨⟨h.flags, h.stands⟩, rfl⟩, rfl⟩
  case h_12 => exact StepsIn.push h

-- A comment that runs to the end of the pattern takes in what stands behind it.
structure RunsOut (st : Reader) (t : Token) (ts : List Token) : Prop where
  openSet : st.openSet = none
  verbose : st.frame.verbose
  sign : t = .plain '#'
  line : .plain '\n' ∉ ts

theorem step_of_runsOut (h : RunsOut st t ts) : st.step t ts = .ok (st, []) := by
  have hb : isPatternBlank '#' = false := by decide
  have hd : ts.dropWhile (· ≠ .plain '\n') = [] :=
    List.dropWhile_eq_nil_iff.mpr fun t ht => decide_eq_true <| ne_of_mem_of_not_mem ht h.line
  simp only [step, h.openSet, h.verbose, h.sign, hb, hd, Bool.and_false, Bool.false_eq_true,
    if_false, beq_self_eq_true, Bool.and_self, if_true, List.drop_nil]

-- It is in a group then, which is left open.
theorem outer_ne_nil_of_verbose (h : w.Grounded st) (hv : st.frame.verbose) : st.outer ≠ [] := by
  intro ho
  have hs := h.stands
  rw [ho] at hs
  rw [hs.verbose] at hv
  contradiction

theorem step_lifts (h : w.Grounded st) (hg : ¬IsFlagGroup st t ts) (hr : ¬RunsOut st t ts) :
    Lifts w.StepsIn (st.step t ts) ((w.reader st).step t (ts ++ w.tail)) := by
  unfold step
  have ho : (w.reader st).openSet = st.openSet.map w.openSet := rfl
  rw [ho, reader_verbose]
  cases hs : st.openSet
  case some s => exact stepInSet_lifts h s t ts
  case none =>
    cases t
    case escaped c => exact readEscape_lifts h c ts
    case plain c =>
      refine .ite (fun _ => StepsIn.ok h) fun _ => .ite (fun hc => ?_) fun _ => ?_
      case refine_1 =>
        simp only [Bool.and_eq_true, beq_iff_eq] at hc
        have hd : ts.dropWhile (· ≠ .plain '\n') ≠ [] := by
          intro hd
          refine hr ⟨hs, hc.left, by rw [hc.right], fun hn => ?_⟩
          simpa using List.dropWhile_eq_nil_iff.mp hd _ hn
        rw [List.dropWhile_append]
        cases hw : ts.dropWhile (· ≠ .plain '\n')
        case nil => contradiction
        case cons => exact StepsIn.ok h
      case refine_2 => exact stepPlain_lifts h c ts hg hs

/-! ### Flags for the whole pattern -/

theorem ListsFlags.append (h : ListsFlags ts) (us : List Token) : ListsFlags (ts ++ us) := by
  have ⟨letters, rest, hn, hc, he⟩ := h
  exact ⟨letters, rest ++ us, hn, hc, by rw [he, List.append_assoc, List.cons_append]⟩

theorem opening_of_isFlagGroup (hg : IsFlagGroup st t ts) (hs : st.step t ts = .ok r) :
    st.frame.opening = .whole ∧ st.frame.done = [] ∧ st.frame.pieces = [] := by
  obtain ⟨ho, rfl, _, rfl, hl⟩ := hg
  have hb : isPatternBlank '(' = false := by decide
  have hc : ('(' == '#') = false := by decide
  have ⟨letters, rest, hn, hf, he⟩ := hl
  cases letters
  case nil => contradiction
  case cons c letters =>
    simp only [step, ho, hb, hc, Bool.and_false, Bool.false_eq_true, if_false, stepPlain, openGroup,
      he, List.map_cons, List.cons_append] at hs
    rw [openExtended_of_flags <| .inr <| hf c List.mem_cons_self] at hs
    rw [he] at hl
    exact opening_of_openFlags hl hs

-- With an anchor in front of them, flags come too late.
theorem not_step_of_isFlagGroup (h : w.Grounded st) (hg : IsFlagGroup st t ts)
    (hs : st.step t ts = .ok r) :
    w.front ∧ ∃ e, (w.reader st).step t (ts ++ w.tail) = .error e := by
  obtain ⟨ho, hd, hp⟩ := opening_of_isFlagGroup hg hs
  have hb := h.stands
  cases hr : st.outer <;> rw [hr] at hb
  case cons => exact absurd ho hb.left
  case nil =>
    have hw : w.front := by
      by_contra hw
      simpa [hd, hp] using hb.nonempty (by simpa using hw)
    refine ⟨hw, ?_⟩
    cases hs' : (w.reader st).step t (ts ++ w.tail)
    case error e => exact ⟨e, rfl⟩
    case ok r' =>
      have hg' : IsFlagGroup (w.reader st) t (ts ++ w.tail) := by
        obtain ⟨ho, ht, _, rfl, hl⟩ := hg
        exact ⟨by rw [reader, ho]; rfl, ht, _, rfl, hl.append _⟩
      obtain ⟨_, _, hp'⟩ := opening_of_isFlagGroup hg' hs'
      rw [reader_frame_of_nil hr, base, if_neg (by simp [hw]), if_pos hd] at hp'
      simp at hp'

/-! ### Runs -/

-- Some step of a run comes to flags for the whole pattern.
def MeetsFlags (st : Reader) : Nat → List Token → Prop
  | _, [] => False
  | skip + 1, _ :: ts => MeetsFlags st skip ts
  | 0, t :: ts =>
    IsFlagGroup st t ts ∨
      match st.step t ts with
      | .error _ => False
      | .ok (st, rest) => MeetsFlags st (ts.length - rest.length) ts

theorem run_length (st : Reader) (ts : List Token) : st.run ts.length ts = .ok st := by
  induction ts
  case nil => rfl
  case cons t ts hi => exact hi

-- A step of a run that closes every group.
theorem run_cons_lifts (h : w.Grounded st) (hg : ¬IsFlagGroup st t ts)
    (hr : st.run 0 (t :: ts) = .ok st') (ho : st'.outer = []) :
    ∃ st₁ rest, st.step t ts = .ok (st₁, rest) ∧ w.Grounded st₁ ∧
      st₁.run (ts.length - rest.length) ts = .ok st' ∧
      (w.reader st).run 0 (t :: ts ++ w.tail) =
        (w.reader st₁).run (ts.length - rest.length) (ts ++ w.tail) := by
  rw [run] at hr
  by_cases hq : RunsOut st t ts
  case pos =>
    simp only [step_of_runsOut hq, List.length_nil, Nat.sub_zero, run_length] at hr
    cases hr
    exact absurd ho <| outer_ne_nil_of_verbose h hq.verbose
  case neg =>
    cases hs : st.step t ts <;> simp only [hs] at hr
    case error => contradiction
    case ok r =>
      have ⟨b, hb, ⟨h₁, hst⟩, ht⟩ := step_lifts h hg hq r hs
      have hl : (ts ++ w.tail).length - b.2.length = ts.length - r.2.length := by
        rw [ht, List.length_append, List.length_append]
        omega
      refine ⟨r.1, r.2, rfl, h₁, hr, ?_⟩
      rw [List.cons_append, run, hb]
      dsimp only
      rw [hl, hst]

-- The pattern is read alike with the anchors and without them, up to the anchor behind it.
theorem run_lifts (h : w.Grounded st) (hk : skip ≤ ts.length) (hm : ¬st.MeetsFlags skip ts)
    (hr : st.run skip ts = .ok st') (ho : st'.outer = []) :
    w.Grounded st' ∧
      (w.reader st).run skip (ts ++ w.tail) = (w.reader st').run 0 w.tail := by
  induction ts generalizing st skip
  case nil =>
    cases hr
    rw [Nat.le_zero.mp hk]
    exact ⟨h, rfl⟩
  case cons t ts hi =>
    cases skip
    case succ skip => exact hi h (Nat.le_of_succ_le_succ hk) hm hr
    case zero =>
      simp only [MeetsFlags, not_or] at hm
      have ⟨st₁, rest, hs, h₁, hr, he⟩ := run_cons_lifts h hm.left hr ho
      rw [hs] at hm
      rw [he]
      exact hi h₁ (Nat.sub_le _ _) hm.right hr

-- Flags for the whole pattern can only be set without an anchor in front of them.
theorem run_lifts_of_meetsFlags (h : w.Grounded st) (hk : skip ≤ ts.length)
    (hm : st.MeetsFlags skip ts) (hr : st.run skip ts = .ok st') (ho : st'.outer = []) :
    w.front ∧ ∃ e, (w.reader st).run skip (ts ++ w.tail) = .error e := by
  induction ts generalizing st skip
  case nil => contradiction
  case cons t ts hi =>
    cases skip
    case succ skip => exact hi h (Nat.le_of_succ_le_succ hk) hm hr
    case zero =>
      by_cases hg : IsFlagGroup st t ts
      case pos =>
        rw [run] at hr
        cases hs : st.step t ts <;> rw [hs] at hr
        case error => contradiction
        case ok =>
          have ⟨hw, e, he⟩ := not_step_of_isFlagGroup h hg hs
          exact ⟨hw, e, by rw [List.cons_append, run, he]⟩
      case neg =>
        have ⟨st₁, rest, hs, h₁, hr, he⟩ := run_cons_lifts h hg hr ho
        rw [MeetsFlags, hs] at hm
        rw [he]
        exact hi h₁ (Nat.sub_le _ _) (hm.resolve_left hg) hr

end StepCatalog.Regex.Reader
