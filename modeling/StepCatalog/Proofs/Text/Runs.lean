import Mathlib
import StepCatalog.Proofs.Text.Pieces

namespace StepCatalog.Text

open List

variable {p sep : Char → Bool} {c : Char} {run s t u : List Char}

-- A stretch of a text that is all of one kind of characters, and that characters of other kinds or
-- the ends of the text enclose.
def IsRun (p : Char → Bool) (run s : List Char) : Prop :=
  ∃ before after, s = before ++ run ++ after ∧ (∀ c ∈ run, p c) ∧
    (∀ c ∈ before.getLast?, p c = false) ∧ ∀ c ∈ after.head?, p c = false

theorem not_of_head?_dropWhile (hc : c ∈ (s.dropWhile p).head?) : p c = false := by
  have h := head?_dropWhile_not p s
  rwa [Option.mem_def.mp hc] at h

theorem not_of_getLast?_rdropWhile (hc : c ∈ (s.rdropWhile p).getLast?) : p c = false := by
  refine not_of_head?_dropWhile (s := s.reverse) ?_
  rwa [rdropWhile, getLast?_reverse] at hc

-- Characters of one kind that stand together stand in one run.
theorem exists_isRun_iff : (∃ run, IsRun p run s ∧ t <:+: run) ↔ t <:+: s ∧ ∀ c ∈ t, p c := by
  constructor
  case mp =>
    rintro ⟨run, ⟨before, after, rfl, hp, _⟩, ht⟩
    exact ⟨ht.trans <| infix_append .., fun c hc => hp c <| ht.subset hc⟩
  case mpr =>
    rintro ⟨⟨a, b, rfl⟩, ht⟩
    have ha : a.rdropWhile p ++ a.rtakeWhile p = a := rdropWhile_append_rtakeWhile
    have hb : b.takeWhile p ++ b.dropWhile p = b := takeWhile_append_dropWhile
    refine ⟨a.rtakeWhile p ++ t ++ b.takeWhile p, ?_, infix_append ..⟩
    refine ⟨a.rdropWhile p, b.dropWhile p, ?_, ?_, fun _ => not_of_getLast?_rdropWhile,
      fun _ => not_of_head?_dropWhile⟩
    case refine_1 =>
      nth_rewrite 1 [← ha, ← hb]
      simp only [append_assoc]
    case refine_2 =>
      simp only [mem_append]
      rintro c ((hc | hc) | hc)
      exacts [mem_rtakeWhile_imp hc, ht c hc, mem_takeWhile_imp hc]

theorem infix_append_cons_iff (hc : c ∉ t) : t <:+: s ++ c :: u ↔ t <:+: s ∨ t <:+: u := by
  have hp {t : List Char} (hc : c ∉ t) (h : t <+: c :: u) : t = [] := by
    cases t
    case nil => rfl
    case cons d t => exact absurd (cons_prefix_cons.mp h).left fun he => hc <| he ▸ mem_cons_self
  rw [infix_append_iff, infix_cons_iff]
  constructor
  case mp =>
    rintro (h | (h | h) | ⟨l, r, rfl, hl, hr⟩)
    case inl => exact .inl h
    case inr.inl.inl => exact hp hc h ▸ .inl nil_infix
    case inr.inl.inr => exact .inr h
    case inr.inr =>
      have hn := hp (fun hm => hc <| mem_append_right l hm) hr
      exact .inl <| by simpa [hn] using hl.isInfix
  case mpr => exact fun h => h.imp_right fun h => .inl <| .inr h

theorem exists_mem_pieces_iff (hn : t ≠ []) (ht : ∀ c ∈ t, sep c = false) :
    (∃ w ∈ pieces sep s, t <:+: w) ↔ t <:+: s := by
  have word {s : List Char} (hs : ∀ c ∈ s, sep c = false) :
      (∃ w ∈ pieces sep s, t <:+: w) ↔ t <:+: s := by
    rw [pieces_of_forall_not hs]
    cases s <;> simp [hn]
  induction s using @cut_induction sep
  case word s hs => exact word hs
  case cut s c u hs hc hi =>
    have hm : c ∉ t := fun hm => by simp [ht c hm] at hc
    simp only [pieces_append_cons hc, mem_append, or_and_right, exists_or, word hs, hi,
      infix_append_cons_iff hm]

-- What is free of separators stands in one of the parts between them.
theorem exists_mem_splitRuns_iff :
    (∃ w ∈ splitRuns sep s, t <:+: w) ↔ t <:+: s ∧ ∀ c ∈ t, sep c = false := by
  by_cases hn : t = []
  case pos =>
    have ⟨w, _, _, hr, _⟩ := @exists_splitRuns sep s
    simp [hn, hr]
  case neg =>
    constructor
    case mp =>
      intro ⟨w, hw, h⟩
      have ht : ∀ c ∈ t, sep c = false := fun c hc => of_mem_splitRuns hw (h.subset hc) |>.2
      refine ⟨(exists_mem_pieces_iff hn ht).mp ⟨w, ?_, h⟩, ht⟩
      rw [← filter_splitRuns]
      exact mem_filter.mpr ⟨hw, decide_eq_true <| mt (fun he => by simpa [he] using h) hn⟩
    case mpr =>
      intro ⟨h, ht⟩
      have ⟨w, hw, h⟩ := (exists_mem_pieces_iff hn ht).mpr h
      rw [← filter_splitRuns] at hw
      exact ⟨w, mem_of_mem_filter hw, h⟩

theorem infix_of_mem_pieces (h : w ∈ pieces sep s) : w <:+: s := by
  rw [← filter_splitRuns] at h
  exact exists_mem_splitRuns_iff.mp ⟨w, mem_of_mem_filter h, infix_rfl⟩ |>.left

end StepCatalog.Text
