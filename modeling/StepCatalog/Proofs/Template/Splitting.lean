import Mathlib
import StepCatalog.Template

namespace StepCatalog.Template

open List

/-! ### Texts without placeholders -/

-- Each opening brace is closed right away. Whatever follows such a text is scanned afresh.
inductive Closed : List Char → Prop
  | nil : Closed []
  | braces (h : Closed s) : Closed ('{' :: '}' :: s)
  | char (hc : c ≠ '{') (h : Closed s) : Closed (c :: s)

-- A text without placeholders. Nothing closes the last of its braces if more than that holds.
inductive IsLiteral : List Char → Prop
  | closed (h : Closed s) : IsLiteral s
  | unclosed (h : Closed s) (hn : '}' ∉ n) : IsLiteral (s ++ '{' :: n)

theorem Closed.append (hs : Closed s) (ht : Closed t) : Closed (s ++ t) := by
  induction hs
  case nil => exact ht
  case braces hi => exact .braces hi
  case char hc _ hi => exact .char hc hi

theorem Closed.of_char (hc : c ≠ '{') (h : Closed (c :: s)) : Closed s := by
  cases h
  case braces => contradiction
  case char h => exact h

namespace IsLiteral

theorem char (hc : c ≠ '{') (h : IsLiteral s) : IsLiteral (c :: s) := by
  cases h
  case closed h => exact .closed <| .char hc h
  case unclosed h hn => exact .unclosed (.char hc h) hn

theorem braces (h : IsLiteral s) : IsLiteral ('{' :: '}' :: s) := by
  cases h
  case closed h => exact .closed <| .braces h
  case unclosed h hn => exact .unclosed (.braces h) hn

theorem of_char (hc : c ≠ '{') (h : IsLiteral (c :: s)) : IsLiteral s := by
  generalize ht : c :: s = t at h
  cases h
  case closed h => exact .closed <| .of_char hc <| ht ▸ h
  case unclosed a n h hn =>
    cases a
    case nil => exact absurd (cons.inj ht).left hc
    case cons d a =>
      have ⟨hd, hs⟩ := cons.inj ht
      exact hs ▸ .unclosed (.of_char (hd ▸ hc) h) hn

theorem of_not_mem (h : '}' ∉ s) : IsLiteral s := by
  induction s
  case nil => exact .closed .nil
  case cons c s hi =>
    have ⟨_, hs⟩ := not_or.mp <| mt mem_cons.mpr h
    by_cases hc : c = '{'
    case pos => exact hc ▸ .unclosed .nil hs
    case neg => exact .char hc <| hi hs

end IsLiteral

/-! ### Placeholders -/

-- A template and its literal segments: a text without placeholders, or what stands before the first
-- placeholder and the segments of what follows it.
inductive Splits : List Char → List (List Char) → Prop
  | last (h : IsLiteral s) : Splits s [s]
  | hole (hs : Closed s) (hn : n ≠ []) (hc : '}' ∉ n) (h : Splits raw segments) :
    Splits (s ++ '{' :: n ++ '}' :: raw) (s :: segments)

-- The names of the placeholders of a template.
inductive HasPlaceholder : List Char → List Char → Prop
  | first (hs : Closed s) (hn : n ≠ []) (hc : '}' ∉ n) :
    HasPlaceholder (s ++ '{' :: n ++ '}' :: raw) n
  | later (hs : Closed s) (hn : n ≠ []) (hc : '}' ∉ n) (h : HasPlaceholder raw m) :
    HasPlaceholder (s ++ '{' :: n ++ '}' :: raw) m

theorem HasPlaceholder.subset (h : HasPlaceholder raw n) : n ⊆ raw := by
  induction h
  case first => exact fun c hc => by simp [hc]
  case later hi => exact subset_append_of_subset_right _ <| subset_cons_of_subset _ hi

theorem scan_closed (h : Closed s) (segment t : List Char) :
    scan segment .outside (s ++ t) = scan (s.reverse ++ segment) .outside t := by
  induction h generalizing segment
  case nil => rfl
  case braces hi => simp [scan, hi]
  case char hc _ hi => simp [scan, hc, hi]

theorem scan_name (h : '}' ∉ n) (segment name t : List Char) :
    scan segment (.inside name) (n ++ t) = scan segment (.inside (n.reverse ++ name)) t := by
  induction n generalizing name
  case nil => rfl
  case cons c n hi =>
    have ⟨hc, hn⟩ := not_or.mp <| mt mem_cons.mpr h
    simp [scan, Ne.symm hc, hi hn]

theorem scan_literal (h : IsLiteral s) : scan [] .outside s = [s] := by
  cases h
  case closed h => simpa [scan] using scan_closed h [] []
  case unclosed s n h hn =>
    have := scan_name hn s.reverse [] []
    simp_all [scan_closed h, scan]

theorem Splits.split_eq (h : Splits raw segments) : split raw = segments := by
  simp only [split]
  induction h
  case last h => exact scan_literal h
  case hole s n _ _ hs hn hc _ hi =>
    simp [scan_closed hs, scan_name hc, scan, hn, hi]

-- Both for a text that is in no placeholder and for one whose last brace may open one.
theorem exists_splits_append (cs : List Char) :
    (∀ s, Closed s → ∃ segments, Splits (s ++ cs) segments) ∧
    ∀ s n, Closed s → '}' ∉ n → ∃ segments, Splits (s ++ '{' :: n ++ cs) segments := by
  induction cs
  case nil =>
    simp only [append_nil]
    exact ⟨fun s hs => ⟨_, .last <| .closed hs⟩, fun s n hs hn => ⟨_, .last <| .unclosed hs hn⟩⟩
  case cons c cs hi =>
    have ⟨ho, hn⟩ := hi
    constructor
    case left =>
      intro s hs
      by_cases hc : c = '{'
      case pos => simpa [hc] using hn s [] hs not_mem_nil
      case neg => simpa using ho (s ++ [c]) <| hs.append <| .char hc .nil
    case right =>
      intro s n hs hm
      by_cases hc : c = '}'
      case neg =>
        have hm' : '}' ∉ n ++ [c] := by simp [hm, Ne.symm hc]
        simpa using hn s (n ++ [c]) hs hm'
      case pos =>
        cases n
        case nil => simpa [hc] using ho (s ++ ['{', '}']) <| hs.append <| .braces .nil
        case cons d n =>
          have ⟨segments, h⟩ := ho [] .nil
          rw [hc]
          exact ⟨_, .hole hs (cons_ne_nil d n) hm h⟩

theorem splits_split (raw : List Char) : Splits raw (split raw) := by
  have ⟨_, h⟩ := (exists_splits_append raw).left [] .nil
  exact h.split_eq ▸ h

theorem splits_iff : Splits raw segments ↔ split raw = segments :=
  ⟨Splits.split_eq, fun h => h ▸ splits_split raw⟩

namespace Splits

theorem ne_nil (h : Splits raw segments) : segments ≠ [] := by
  cases h <;> exact cons_ne_nil _ _

theorem isLiteral (h : Splits raw segments) : ∀ s ∈ segments, IsLiteral s := by
  induction h
  case last h => simpa using h
  case hole hs _ _ _ hi => exact forall_mem_cons.mpr ⟨.closed hs, hi⟩

-- The last segment is all that follows the last placeholder.
theorem getLast?_suffix (h : Splits raw segments) : ∀ s ∈ segments.getLast?, s <:+ raw := by
  induction h
  case last => simp
  case hole s n raw segments _ _ _ h hi =>
    have hr : raw <:+ s ++ '{' :: n ++ '}' :: raw := ⟨s ++ '{' :: n ++ ['}'], by simp⟩
    rw [getLast?_cons_of_ne_nil h.ne_nil]
    exact fun t ht => (hi t ht).trans hr

end Splits

end StepCatalog.Template
