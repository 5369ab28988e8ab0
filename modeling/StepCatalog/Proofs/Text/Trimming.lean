import Mathlib
import StepCatalog.Proofs.Text.Pieces
import StepCatalog.Text.Blank

namespace StepCatalog.Text

open List

variable {s : List Char}

theorem stripEnd_prefix (s : List Char) : stripEnd s <+: s :=
  rdropWhile_prefix isBlank s

theorem stripEnd_stripEnd (s : List Char) : stripEnd (stripEnd s) = stripEnd s :=
  rdropWhile_idempotent isBlank s

theorem mem_of_mem_stripChars (h : c ∈ stripChars s) : c ∈ s := by
  have hp := stripEnd_prefix (stripStart s)
  exact (dropWhile_sublist isBlank).subset <| hp.subset h

theorem stripChars_of_isBlank (h : ∀ c ∈ s, isBlank c) : stripChars s = [] := by
  rw [stripChars, stripStart, dropWhile_eq_nil_iff.mpr h]
  rfl

theorem stripChars_eq_nil_iff : stripChars s = [] ↔ ∀ c ∈ s, isBlank c := by
  constructor
  case mp =>
    intro h
    have hs : stripStart s = [] := by
      by_contra hn
      have hb := rdropWhile_eq_nil_iff.mp h _ <| head_mem hn
      exact absurd hb <| ne_true_of_eq_false <| head_dropWhile_not isBlank hn
    exact dropWhile_eq_nil_iff.mp hs
  case mpr => exact stripChars_of_isBlank

-- Trimming the end of a text leaves no blank at its start that was not there.
theorem stripStart_stripChars (s : List Char) : stripStart (stripChars s) = stripChars s := by
  refine dropWhile_eq_self_iff.mpr ?_
  intro hl
  have hp := stripEnd_prefix (stripStart s)
  have hn : stripChars s ≠ [] := length_pos_iff.mp hl
  have hh : (stripChars s).head hn = (stripStart s).head (hp.ne_nil hn) := hp.head hn
  rw [← head_eq_getElem hn, hh]
  exact ne_true_of_eq_false <| head_dropWhile_not isBlank (hp.ne_nil hn)

theorem stripChars_stripChars (s : List Char) : stripChars (stripChars s) = stripChars s := by
  have hs : stripChars (stripChars s) = stripEnd (stripChars s) :=
    congrArg stripEnd <| stripStart_stripChars s
  exact hs.trans <| stripEnd_stripEnd _

theorem stripStart_eq_self_iff : stripStart s = s ↔ ∀ c ∈ s.head?, isBlank c = false := by
  rw [stripStart, dropWhile_eq_self_iff]
  cases s <;> simp

theorem stripEnd_eq_self_iff : stripEnd s = s ↔ ∀ c ∈ s.getLast?, isBlank c = false := by
  have h := stripStart_eq_self_iff (s := s.reverse)
  rw [head?_reverse] at h
  rw [← h, stripEnd, reverse_eq_iff, stripStart]

-- Nothing is trimmed off a text that neither begins nor ends in a blank.
theorem stripChars_eq_self_iff : stripChars s = s ↔
    (∀ c ∈ s.head?, isBlank c = false) ∧ ∀ c ∈ s.getLast?, isBlank c = false := by
  rw [← stripStart_eq_self_iff, ← stripEnd_eq_self_iff]
  constructor
  case mp =>
    intro h
    have hs : stripStart s = s := h ▸ stripStart_stripChars s
    exact ⟨hs, by rwa [stripChars, hs] at h⟩
  case mpr =>
    intro ⟨hs, he⟩
    rw [stripChars, hs, he]

-- What is trimmed off a text is blank.
theorem exists_stripChars_append (s : List Char) : ∃ front back, s = front ++ (stripChars s ++ back) ∧
    (∀ c ∈ front, isBlank c) ∧ ∀ c ∈ back, isBlank c := by
  have hb (s : List Char) : ∀ c ∈ s.takeWhile isBlank, isBlank c := fun _ => mem_takeWhile_imp
  refine ⟨s.takeWhile isBlank, ((stripStart s).reverse.takeWhile isBlank).reverse, ?_, hb s,
    fun c hc => hb _ c <| mem_reverse.mp hc⟩
  rw [stripChars, stripEnd, ← reverse_append, takeWhile_append_dropWhile, reverse_reverse,
    stripStart, takeWhile_append_dropWhile]

-- Trimming a text takes no word off it.
theorem pieces_stripChars (s : List Char) : pieces isBlank (stripChars s) = pieces isBlank s := by
  have ⟨front, back, hs, hf, hb⟩ := exists_stripChars_append s
  have hp : pieces isBlank (front ++ (stripChars s ++ back)) = pieces isBlank (stripChars s) := by
    rw [pieces_append_left_of_forall hf, pieces_append_of_forall hb]
  exact hp.symm.trans <| congrArg _ hs.symm

theorem countP_stripChars (s : List Char) :
    (stripChars s).countP (!isBlank ·) = s.countP (!isBlank ·) := by
  have ⟨front, back, hs, hf, hb⟩ := exists_stripChars_append s
  have hz {l : List Char} (hl : ∀ c ∈ l, isBlank c) : l.countP (!isBlank ·) = 0 :=
    countP_eq_zero.mpr fun c hc => by simp [hl c hc]
  have hc := congrArg (countP (!isBlank ·)) hs
  rw [countP_append, countP_append, hz hf, hz hb, Nat.zero_add, Nat.add_zero] at hc
  exact hc.symm

theorem stripStart_append_cons (hc : isBlank c = false) (s t : List Char) :
    stripStart (s ++ c :: t) = stripStart s ++ c :: t := by
  have hn : ¬isBlank c = true := ne_true_of_eq_false hc
  rw [stripStart, dropWhile_append, dropWhile_cons_of_neg hn, stripStart]
  split
  case isTrue h => rw [isEmpty_iff.mp h, nil_append]
  case isFalse => rfl

theorem stripStart_prefix (h : s <+: t) : stripStart s <+: stripStart t := by
  have ⟨u, hu⟩ := h
  rw [← hu, stripStart, stripStart, dropWhile_append]
  split
  case isTrue h => exact isEmpty_iff.mp h ▸ nil_prefix
  case isFalse => exact prefix_append ..

theorem strip_eq_self_iff {s : String} : strip s = s ↔ stripChars s.toList = s.toList := by
  rw [← String.toList_inj, strip, String.toList_ofList]

theorem strip_eq_empty_iff {s : String} : strip s = "" ↔ isBlankText s := by
  rw [strip, String.ofList_eq_empty_iff, stripChars_eq_nil_iff, isBlankText, all_eq_true]

theorem strip_strip (s : String) : strip (strip s) = strip s := by
  simp [strip, stripChars_stripChars]

end StepCatalog.Text
