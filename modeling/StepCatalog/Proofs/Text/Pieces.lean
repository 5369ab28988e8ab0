import Mathlib
import StepCatalog.Text.Split

namespace StepCatalog.Text

open List

-- The pieces of a text between separators; between two separators in a row there is none.
def pieces (sep : Char → Bool) (s : List Char) : List (List Char) :=
  (s.splitOnP sep).filter (· ≠ [])

variable {sep : Char → Bool}

theorem pieces_append_cons (hc : sep c) (s t : List Char) :
    pieces sep (s ++ c :: t) = pieces sep s ++ pieces sep t := by
  simp only [pieces, splitOnP_append_cons s t hc, filter_append]

theorem pieces_cons (hc : sep c) (s : List Char) : pieces sep (c :: s) = pieces sep s := by
  have h := pieces_append_cons hc [] s
  simpa [pieces, splitOnP_nil] using h

-- A text is free of separators, or such a text stands before a separator and another text.
@[elab_as_elim]
theorem cut_induction {motive : List Char → Prop}
    (word : ∀ s, (∀ c ∈ s, sep c = false) → motive s)
    (cut : ∀ s c t, (∀ d ∈ s, sep d = false) → sep c → motive t → motive (s ++ c :: t))
    (s : List Char) : motive s := by
  suffices h : ∀ p, (∀ c ∈ p, sep c = false) → motive (p ++ s) from h [] <| forall_mem_nil _
  induction s <;> intro p hp
  case nil => exact word _ <| by simpa using hp
  case cons c s hi =>
    cases hc : sep c
    case false =>
      rw [append_cons]
      apply hi
      simpa [or_imp, forall_and] using ⟨hp, hc⟩
    case true => exact cut p c s hp hc <| hi [] <| forall_mem_nil _

theorem pieces_of_forall_not (h : ∀ c ∈ s, sep c = false) :
    pieces sep s = [s].filter (· ≠ []) := by
  rw [pieces, splitOnP_eq_singleton h]

theorem pieces_of_forall (h : ∀ c ∈ s, sep c) : pieces sep s = [] := by
  induction s
  case nil => simp [pieces, splitOnP_nil]
  case cons c s hi =>
    have ⟨hc, h⟩ := forall_mem_cons.mp h
    rw [pieces_cons hc, hi h]

theorem pieces_append_of_forall (h : ∀ c ∈ t, sep c) (s : List Char) :
    pieces sep (s ++ t) = pieces sep s := by
  cases t
  case nil => rw [append_nil]
  case cons c t =>
    have ⟨hc, h⟩ := forall_mem_cons.mp h
    rw [pieces_append_cons hc, pieces_of_forall h, append_nil]

theorem pieces_append_left_of_forall (h : ∀ c ∈ s, sep c) (t : List Char) :
    pieces sep (s ++ t) = pieces sep t := by
  induction s
  case nil => rfl
  case cons c s hi =>
    have ⟨hc, h⟩ := forall_mem_cons.mp h
    rw [cons_append, pieces_cons hc, hi h]

theorem flatten_splitOnP (s : List Char) : (s.splitOnP sep).flatten = s.filter (!sep ·) := by
  induction s
  case nil => simp [splitOnP_nil]
  case cons c s hi =>
    have ⟨p, ps, hp⟩ := exists_cons_of_ne_nil (splitOnP_ne_nil sep s)
    rw [hp] at hi
    cases hc : sep c <;> simp [splitOnP_cons_eq_if_modifyHead, hp, hc, ← hi]

theorem flatten_pieces (s : List Char) : (pieces sep s).flatten = s.filter (!sep ·) := by
  rw [← flatten_splitOnP]
  exact flatten_filter_ne_nil

-- Cutting at runs of separators gives the same first part as cutting at every separator, and the
-- same parts after it that have anything in them.
theorem exists_splitRuns (s : List Char) :
    ∃ p ps qs, splitRuns sep s = p :: ps ∧ s.splitOnP sep = p :: qs ∧
      ps.filter (· ≠ []) = qs.filter (· ≠ []) := by
  induction s
  case nil => exact ⟨[], [], [], rfl, splitOnP_nil, rfl⟩
  case cons c s hi =>
    have ⟨p, ps, qs, hr, hs, he⟩ := hi
    cases hc : sep c <;> simp only [splitRuns, splitOnP_cons_eq_if_modifyHead, hc, hr, hs]
    case false => exact ⟨c :: p, ps, qs, rfl, rfl, he⟩
    case true =>
      cases hn : s.head?.any sep
      case false => exact ⟨[], p :: ps, p :: qs, rfl, rfl, by simp only [filter_cons, he]⟩
      case true =>
        -- Behind another separator the first part is empty, and stands for both.
        have ⟨d, hd, hsep⟩ := Option.any_eq_true _ _ |>.mp hn
        have hp : p = [] := by
          rw [← cons_head?_tail hd, splitOnP_cons_eq_if_modifyHead, if_pos hsep] at hs
          exact (cons.inj hs).left.symm
        exact ⟨[], ps, p :: qs, by simp [hp], by simp, by simpa [hp] using he⟩

theorem filter_splitRuns (s : List Char) : (splitRuns sep s).filter (· ≠ []) = pieces sep s := by
  have ⟨p, ps, qs, hr, hs, he⟩ := @exists_splitRuns sep s
  simp only [pieces, hr, hs, filter_cons, he]

theorem of_mem_splitRuns (h : p ∈ splitRuns sep s) (hc : c ∈ p) : c ∈ s ∧ sep c = false := by
  have hp : p ∈ pieces sep s := by
    rw [← filter_splitRuns]
    exact mem_filter.mpr ⟨h, decide_eq_true <| ne_nil_of_mem hc⟩
  have hs : c ∈ s.filter (!sep ·) := @flatten_pieces sep s ▸ mem_flatten_of_mem hp hc
  simpa using hs

end StepCatalog.Text
