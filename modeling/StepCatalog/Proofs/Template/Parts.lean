import Mathlib
import StepCatalog.Pattern
import StepCatalog.Proofs.Template.Splitting

namespace StepCatalog

namespace Template

-- A template, one part at a time. The text of its expression, the tokens of that text, the tree
-- that is read from them and the texts that the tree accepts are all made up part by part.
inductive Part
  | letter (c : Char)
  | gap

def parts : List (List Char) → List Part
  | [] => []
  | [s] => s.map .letter
  | s :: rest => s.map .letter ++ .gap :: parts rest

namespace Part

def chars : Part → List Char
  | letter c => escapeChar c
  | gap => wildcard

def lastChar : Part → Char
  | letter c => c
  | gap => '*'

theorem chars_head? (p : Part) : p.chars.head? ≠ some '^' := by
  cases p
  case letter c =>
    simp only [chars, escapeChar]
    split
    case isTrue => simp
    case isFalse h =>
      simp only [List.head?_cons, ne_eq, Option.some.injEq]
      intro he
      exact h <| he ▸ by decide
  case gap => decide

theorem chars_getLast? (p : Part) : p.chars.getLast? = some p.lastChar := by
  cases p
  case letter c =>
    simp only [chars, escapeChar, lastChar]
    split <;> rfl
  case gap => rfl

end Part

theorem flatMap_chars_head? (ps : List Part) : (ps.flatMap Part.chars).head? ≠ some '^' := by
  cases ps
  case nil => simp
  case cons p ps =>
    have h := p.chars_head?
    cases hc : p.chars
    case nil =>
      have := hc ▸ p.chars_getLast?
      simp at this
    case cons => simp_all

theorem flatMap_chars_getLast? (ps : List Part) :
    (ps.flatMap Part.chars).getLast? = ps.getLast?.map Part.lastChar := by
  induction ps using List.reverseRecOn
  case nil => rfl
  case append_singleton ps p _ => simp [List.getLast?_append, p.chars_getLast?]

-- The expression of a template, before it is anchored.
theorem join_escape (segments : List (List Char)) :
    join wildcard (segments.map escape) = (parts segments).flatMap Part.chars := by
  have hs (s : List Char) : escape s = (s.map Part.letter).flatMap Part.chars := by
    simp [escape, List.flatMap_map, Part.chars]
  induction segments
  case nil => rfl
  case cons s rest hi =>
    cases rest
    case nil => simp [join, parts, hs]
    case cons => simp_all [join, parts, Part.chars]

theorem parts_getLast? {segments : List (List Char)}
    (h : (parts segments).getLast? = some (.letter c)) :
    ∃ last, segments.getLast? = some last ∧ last.getLast? = some c := by
  induction segments
  case nil => simp [parts] at h
  case cons s rest hi =>
    cases rest
    case nil => simpa [parts, List.getLast?_map] using h
    case cons s' rest =>
      cases hp : (parts (s' :: rest)).getLast?
      case none => simp [parts, List.getLast?_append, List.getLast?_cons, hp] at h
      case some p =>
        simp only [parts, List.getLast?_append, List.getLast?_cons, hp, Option.getD_some,
          Option.some_or, Option.some.injEq] at h
        have ⟨last, hl, hc⟩ := hi (h ▸ hp)
        exact ⟨last, by simp [hl, List.getLast?_cons], hc⟩

end Template

namespace StepText

theorem isExpression_eq_false_iff : isExpression raw = false ↔
    raw.head? ≠ some '^' ∧ raw.getLast? ≠ some '$' ∧ '\\' ∉ raw ∧ ('(' ∉ raw ∨ ')' ∉ raw) := by
  simp [isExpression, and_assoc, imp_iff_not_or]

-- A template ends in no dollar of its own, so both of its anchors are added.
theorem source_of_template (h : isExpression raw = false) :
    source raw =
      '^' :: (Template.parts (Template.split raw)).flatMap Template.Part.chars ++ ['$'] := by
  have hl :
      (Template.parts (Template.split raw)).getLast?.map Template.Part.lastChar ≠ some '$' := by
    intro hd
    have ⟨p, hp, hc⟩ := Option.map_eq_some_iff.mp hd
    cases p
    case gap => simp [Template.Part.lastChar] at hc
    case letter c =>
      have ⟨last, hs, hl⟩ := Template.parts_getLast? hp
      have ⟨front, hr⟩ := (Template.splits_split raw).getLast?_suffix last hs
      apply (isExpression_eq_false_iff.mp h).right.left
      simpa [← hr, hl, Template.Part.lastChar] using hc
  rw [source, h, if_neg (by simp), Template.join_escape, anchored,
    if_neg (Template.flatMap_chars_head? _), List.getLast?_cons, if_neg]
  rw [Template.flatMap_chars_getLast?]
  intro hd
  cases hp : (Template.parts (Template.split raw)).getLast? <;> simp_all

end StepText

end StepCatalog
