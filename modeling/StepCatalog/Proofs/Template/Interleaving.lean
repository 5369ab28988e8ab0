import Mathlib
import StepCatalog.Proofs.Template.Splitting

namespace StepCatalog.Template

open List

variable {s t n v raw : List Char} {segments names : List (List Char)}

/-! ### Segments -/

-- What a placeholder has between its braces. A brace may be opened there again, but none closed.
structure IsName (n : List Char) : Prop where
  nonempty : n ≠ []
  unclosed : '}' ∉ n

instance : Decidable (IsName n) :=
  decidable_of_iff (n ≠ [] ∧ '}' ∉ n) ⟨fun ⟨hn, hc⟩ => ⟨hn, hc⟩, fun ⟨hn, hc⟩ => ⟨hn, hc⟩⟩

-- A placeholder stands somewhere in the text.
def HoldsPlaceholder (s : List Char) : Prop := ∃ n, IsName n ∧ '{' :: n ++ ['}'] <:+: s

-- A brace is opened and none is closed after it.
def EndsOpen (s : List Char) : Prop := ∃ n, '}' ∉ n ∧ '{' :: n <:+ s

theorem Closed.of_suffix_append (h : Closed s) (hv : '{' :: v <:+ s ++ t) :
    v.head? = some '}' ∨ '{' :: v <:+ t := by
  induction h
  case nil => exact .inr hv
  case braces hi =>
    rcases suffix_cons_iff.mp hv with he | hv
    case inl => simp [(cons.inj he).right]
    case inr => exact hi <| (suffix_cons_iff.mp hv).resolve_left (by simp)
  case char hc _ hi =>
    have hn {s : List Char} : '{' :: v ≠ _ :: s := fun he => hc (cons.inj he).left.symm
    exact hi <| (suffix_cons_iff.mp hv).resolve_left hn

theorem Closed.head?_of_suffix (h : Closed s) (hv : '{' :: v <:+ s) : v.head? = some '}' := by
  rw [← s.append_nil] at hv
  exact (h.of_suffix_append hv).resolve_right <| by simp

-- In a text without placeholders every brace is closed right away or not at all.
theorem IsLiteral.of_suffix (h : IsLiteral s) (hv : '{' :: v <:+ s) :
    v.head? = some '}' ∨ '}' ∉ v := by
  cases h
  case closed h => exact .inl <| h.head?_of_suffix hv
  case unclosed h hn =>
    refine (h.of_suffix_append hv).imp_right fun hv hm => ?_
    rcases suffix_cons_iff.mp hv with he | hv
    case inl => exact hn <| (cons.inj he).right ▸ hm
    case inr => exact hn <| hv.subset <| mem_cons_of_mem _ hm

theorem isLiteral_iff : IsLiteral s ↔ ¬HoldsPlaceholder s := by
  constructor
  case mp =>
    intro h ⟨n, ⟨hn, hc⟩, a, b, he⟩
    have hv : '{' :: (n ++ '}' :: b) <:+ s := ⟨a, by simp [← he]⟩
    rcases h.of_suffix hv with hh | hm
    case inl => cases n <;> simp_all
    case inr => simp at hm
  case mpr =>
    intro h
    induction s
    case nil => exact .closed .nil
    case cons c s hi =>
      have hs := hi fun ⟨n, hn, hs⟩ => h ⟨n, hn, infix_cons hs⟩
      by_cases hc : c = '{'
      case neg => exact .char hc hs
      case pos =>
        subst hc
        by_cases hm : '}' ∈ s
        case neg => exact .unclosed .nil hm
        case pos =>
          -- What stands before the next closing brace is no name, and so there is nothing.
          have ⟨n, t, he, hn⟩ := eq_append_cons_of_mem hm
          subst he
          cases n
          case nil => exact .braces <| .of_char (by decide) hs
          case cons d n =>
            exact absurd ⟨d :: n, ⟨cons_ne_nil d n, hn⟩, [], t, by simp⟩ h

theorem closed_iff : Closed s ↔ ¬HoldsPlaceholder s ∧ ¬EndsOpen s := by
  rw [← isLiteral_iff]
  constructor
  case mp =>
    refine fun h => ⟨.closed h, fun ⟨n, hn, hs⟩ => hn ?_⟩
    exact mem_of_head? <| h.head?_of_suffix hs
  case mpr =>
    intro ⟨h, ho⟩
    cases h
    case closed h => exact h
    case unclosed hn => exact absurd ⟨_, hn, suffix_append ..⟩ ho

-- Segments that placeholders can stand between. Only the last of them can end in an open brace.
structure AreSegments (segments : List (List Char)) : Prop where
  literal : ∀ s ∈ segments, ¬HoldsPlaceholder s
  closed : ∀ s ∈ segments.dropLast, ¬EndsOpen s

theorem areSegments_singleton : AreSegments [s] ↔ IsLiteral s := by
  rw [isLiteral_iff]
  exact ⟨fun h => h.literal s mem_cons_self, fun h => ⟨forall_mem_singleton.mpr h, nofun⟩⟩

theorem areSegments_cons (hn : segments ≠ []) :
    AreSegments (s :: segments) ↔ Closed s ∧ AreSegments segments := by
  rw [closed_iff]
  constructor
  case mp =>
    intro ⟨hl, hc⟩
    rw [dropLast_cons_of_ne_nil hn] at hc
    have ⟨hl, hls⟩ := forall_mem_cons.mp hl
    have ⟨hc, hcs⟩ := forall_mem_cons.mp hc
    exact ⟨⟨hl, hc⟩, hls, hcs⟩
  case mpr =>
    intro ⟨⟨hl, hc⟩, hls, hcs⟩
    refine ⟨forall_mem_cons.mpr ⟨hl, hls⟩, ?_⟩
    rw [dropLast_cons_of_ne_nil hn]
    exact forall_mem_cons.mpr ⟨hc, hcs⟩

/-! ### Interleaving -/

-- The text of a template, which has its segments with placeholders of these names between them.
def interleave : List (List Char) → List (List Char) → List Char
  | s :: segments, n :: names => s ++ '{' :: n ++ '}' :: interleave segments names
  | segments, _ => segments.flatten

-- A name for each place between two segments.
structure AreNames (names segments : List (List Char)) : Prop where
  length : segments.length = names.length + 1
  isName : ∀ n ∈ names, IsName n

theorem AreNames.ne_nil (h : AreNames names segments) : segments ≠ [] :=
  ne_nil_of_length_eq_add_one h.length

theorem areNames_cons : AreNames (n :: names) (s :: segments) ↔
    IsName n ∧ AreNames names segments := by
  constructor
  case mp =>
    intro ⟨hl, hn⟩
    have ⟨hn, hns⟩ := forall_mem_cons.mp hn
    exact ⟨hn, Nat.succ.inj hl, hns⟩
  case mpr => exact fun ⟨hn, hl, hns⟩ => ⟨congrArg _ hl, forall_mem_cons.mpr ⟨hn, hns⟩⟩

-- Every template is made up of its segments, whatever its placeholders are called.
theorem splits_iff_interleave : Splits raw segments ↔
    AreSegments segments ∧ ∃ names, AreNames names segments ∧ interleave segments names = raw := by
  constructor
  case mp =>
    intro h
    induction h
    case last s h =>
      exact ⟨areSegments_singleton.mpr h, [], ⟨rfl, nofun⟩, by simp [interleave]⟩
    case hole n _ _ hs hn hc h hi =>
      have ⟨ha, names, hm, hr⟩ := hi
      exact ⟨(areSegments_cons h.ne_nil).mpr ⟨hs, ha⟩, n :: names,
        areNames_cons.mpr ⟨⟨hn, hc⟩, hm⟩, by simp [interleave, hr]⟩
  case mpr =>
    rintro ⟨hs, names, hn, rfl⟩
    induction names generalizing segments
    case nil =>
      have ⟨s, he⟩ := length_eq_one_iff.mp hn.length
      subst he
      simpa [interleave] using Splits.last <| areSegments_singleton.mp hs
    case cons n names hi =>
      have ⟨s, segments, he⟩ := exists_cons_of_ne_nil hn.ne_nil
      subst he
      have ⟨hn, hns⟩ := areNames_cons.mp hn
      have ⟨hc, hs⟩ := (areSegments_cons hns.ne_nil).mp hs
      exact .hole hc hn.nonempty hn.unclosed <| hi hs hns

-- Splitting undoes interleaving. It loses nothing of a text but the names of the placeholders, and
-- it finds the segments again under all names.
theorem split_interleave :
    (∀ raw, AreSegments (split raw) ∧
      ∃ names, AreNames names (split raw) ∧ interleave (split raw) names = raw) ∧
    ∀ segments names, AreSegments segments → AreNames names segments →
      split (interleave segments names) = segments := by
  constructor
  case left => exact fun raw => splits_iff_interleave.mp <| splits_split raw
  case right => exact fun _ names hs hn => (splits_iff_interleave.mpr ⟨hs, names, hn, rfl⟩).split_eq

-- Braces around nothing, a brace that is closed but not opened, one in a name, and one left open.
theorem split_interleave_braces :
    let segments := [['a', '{', '}'], ['}', 'b'], ['{', '}', ' ', '{', 'c']]
    let names := [['{', 'x'], ['y', '\n', 'z']]
    AreSegments segments ∧ AreNames names segments ∧
      interleave segments names =
        ['a', '{', '}', '{', '{', 'x', '}', '}', 'b', '{', 'y', '\n', 'z', '}', '{', '}', ' ', '{',
          'c'] ∧
      split (interleave segments names) = segments := by
  intro segments names
  have hs : AreSegments segments := by
    rw [areSegments_cons (by simp), areSegments_cons (by simp), areSegments_singleton]
    refine ⟨.char (by decide) <| .braces .nil, .char (by decide) <| .char (by decide) .nil, ?_⟩
    exact .braces <| .char (by decide) <| .unclosed .nil (by decide)
  have hn : AreNames names segments := ⟨rfl, by decide⟩
  exact ⟨hs, hn, rfl, split_interleave.right segments names hs hn⟩

end StepCatalog.Template
