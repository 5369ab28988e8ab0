import Mathlib
import StepCatalog.Proofs.Catalog.Parts
import StepCatalog.Proofs.Pattern.Anchored
import StepCatalog.Proofs.Template.Label
import StepCatalog.Proofs.Text.Trimming

namespace StepCatalog

open List Text

namespace StepText

variable {raw : List Char}

-- A screen is a trimmed label in front of a colon.
theorem exists_label (h : screenTag raw ≠ []) : ∃ label rest, raw = label ++ ':' :: rest ∧
    ':' ∉ label ∧ label ≠ [] ∧ screenTag raw = stripChars label ∧
    raw.dropWhile (· ≠ ':') = ':' :: rest := by
  let p (c : Char) : Bool := c ≠ ':'
  rw [screenTag] at h ⊢
  split at h
  case isTrue => contradiction
  case isFalse hn =>
    have ⟨hl, hn'⟩ := not_or.mp hn
    have hd : raw.dropWhile p ≠ [] := by
      intro hd
      have ht := takeWhile_append_dropWhile (p := p) (l := raw)
      rw [hd, append_nil] at ht
      exact hl <| congrArg length ht
    have hc : (raw.dropWhile p).head hd = ':' := by simpa [p] using head_dropWhile_not p hd
    have he : raw.dropWhile p = ':' :: (raw.dropWhile p).tail := by
      rw [← hc, cons_head_tail]
    refine ⟨raw.takeWhile p, (raw.dropWhile p).tail, ?_, ?_, ?_, if_neg hn, he⟩
    case refine_1 => rw [← he, takeWhile_append_dropWhile]
    case refine_2 => exact fun hm => by simpa [p] using mem_takeWhile_imp hm
    case refine_3 => exact fun hm => hn' <| .inl <| isEmpty_iff.mpr hm

end StepText

namespace StepPattern

-- What a text goes on with behind an anchor at its start.
def opened (raw : List Char) : List Char := if raw.head? = some '^' then raw.tail else raw

theorem unanchored_eq (raw : List Char) : unanchored raw =
    if (opened raw).getLast? = some '$' then (opened raw).dropLast else opened raw := rfl

theorem getLast?_cons_anchor (s : List Char) :
    ('^' :: s).getLast? = some '$' ↔ s.getLast? = some '$' := by
  rw [getLast?_cons]
  cases s.getLast? <;> simp

-- The anchors that are added are taken away again.
theorem unanchored_anchored (raw : List Char) :
    unanchored (StepText.anchored raw) = unanchored raw := by
  have ho : (if raw.head? = some '^' then raw else '^' :: raw) = '^' :: opened raw := by
    rw [opened]
    split
    case isTrue h => exact (cons_head?_tail h).symm
    case isFalse => rfl
  simp only [unanchored_eq raw, StepText.anchored, ho, getLast?_cons_anchor]
  split
  case isTrue h => rw [unanchored_eq, opened, head?_cons, if_pos rfl, tail_cons, if_pos h]
  case isFalse => simp [unanchored_eq, opened]

-- The anchor at the end of a text is taken away behind its colon.
theorem exists_unanchored {raw : List Char} (h : opened raw = label ++ ':' :: rest) :
    ∃ rest, unanchored raw = label ++ ':' :: rest := by
  rw [unanchored_eq, h]
  split
  case isFalse => exact ⟨rest, rfl⟩
  case isTrue hl =>
    cases rest
    case nil => simp at hl
    case cons c rest => exact ⟨(c :: rest).dropLast, by simp [dropLast_append_of_ne_nil]⟩

theorem display_of_expression [Runtime] {raw : String} (h : StepText.isExpression raw.toList)
    (hc : compile raw = .ok p) : p.display.toList = unanchored raw.toList := by
  have ⟨_, _, hp⟩ := (compile_expression_eq_ok_iff h).mp hc
  simp [hp, display, isTemplated, unanchored_anchored]

/-! ### Labels of expressions -/

-- A label is shown in front of a colon unless it begins with an anchor.
theorem stripChars_prefix_unanchored {raw : List Char} (hr : raw = label ++ ':' :: rest)
    (hh : raw.head? ≠ some '^') : stripChars label <+: stripStart (unanchored raw) := by
  have ⟨rest, hu⟩ := exists_unanchored <| (if_neg hh).trans hr
  rw [hu, stripStart_append_cons (by decide)]
  have hp : stripChars label <+: stripStart label := stripEnd_prefix _
  exact hp.trans <| prefix_append ..

section

variable {raw : List Char} (hr : raw = '^' :: label ++ ':' :: rest)

include hr

theorem exists_unanchored_anchor : ∃ rest, unanchored raw = label ++ ':' :: rest :=
  exists_unanchored <| by rw [hr, opened, cons_append, head?_cons, if_pos rfl, tail_cons]

-- The anchor is the one character of a label that is not shown and is not blank.
theorem not_stripChars_prefix_unanchored (hc : ':' ∉ '^' :: label) :
    ¬stripChars ('^' :: label) <+: stripStart (unanchored raw) := by
  have ⟨_, hu⟩ := exists_unanchored_anchor hr
  have hc : ':' ∉ stripChars ('^' :: label) := fun hm =>
    hc <| mem_of_mem_stripChars hm
  rw [hu, stripStart_append_cons (by decide), Template.prefix_append_cons_iff hc]
  intro hp
  have hl := hp.countP_le (p := (!isBlank ·))
  have hs : (stripStart label).countP (!isBlank ·) ≤ label.countP (!isBlank ·) :=
    (dropWhile_sublist isBlank).countP_le
  rw [countP_stripChars, countP_cons_of_pos (by decide)] at hl
  omega

theorem exists_prefix_unanchored : ∃ s, stripChars ('^' :: label) = '^' :: s ∧
    stripStart s <+: stripStart (unanchored raw) := by
  have ⟨_, hu⟩ := exists_unanchored_anchor hr
  have hb : stripStart ('^' :: label) = '^' :: label := dropWhile_cons_of_neg <| by decide
  have hp : stripChars ('^' :: label) <+: '^' :: label := by
    rw [stripChars, hb]
    exact stripEnd_prefix _
  have hn : stripChars ('^' :: label) ≠ [] := fun hn =>
    absurd (stripChars_eq_nil_iff.mp hn '^' mem_cons_self) <| by decide
  obtain ⟨s, hs, hp⟩ := (prefix_cons_iff.mp hp).resolve_left hn
  exact ⟨s, hs, hu ▸ stripStart_prefix (hp.trans <| prefix_append ..)⟩

end

end StepPattern

open StepPattern

/-! ### Screens -/

namespace StepDefinition

-- What is shown of a definition begins with its screen.
def ShowsScreen (d : StepDefinition) : Prop := d.screen.toList <+: stripStart d.display.toList

-- The screen of an expression is shown, but for an anchor that it begins with. The screen of a
-- template is shown where what is shown of the template is the same as what is written there.
theorem showsScreen_iff [Runtime] (h : ofSite site = .ok d) (hs : d.screen ≠ "") :
    let raw := site.text.toList
    (StepText.isExpression raw = true →
      (d.ShowsScreen ↔ raw.head? ≠ some '^') ∧
      (raw.head? = some '^' → ∃ s, d.screen.toList = '^' :: s ∧
        stripStart s <+: stripStart d.display.toList)) ∧
    (StepText.isExpression raw = false →
      (d.ShowsScreen ↔ Template.IsShown d.screen.toList (raw.dropWhile (· ≠ ':')))) := by
  intro raw
  have hd := DefinitionSite.defines_of_definition? (s := site) (d := d) <| by
    rw [DefinitionSite.definition?, h]
    rfl
  have ht : d.screen.toList = StepText.screenTag raw := by rw [hd.screen, String.toList_ofList]
  have hn : StepText.screenTag raw ≠ [] := ht ▸ fun hn => hs <| String.toList_eq_nil_iff.mp hn
  obtain ⟨label, rest, hr, hc, hl, hst, hdr⟩ := StepText.exists_label hn
  rw [ShowsScreen, ht, hst, hdr]
  constructor
  case left =>
    intro he
    have hsh : d.display.toList = unanchored raw := display_of_expression he hd.pattern
    rw [hsh]
    by_cases hh : raw.head? = some '^'
    case neg =>
      exact ⟨iff_of_true (stripChars_prefix_unanchored hr hh) hh, fun h => absurd h hh⟩
    case pos =>
      cases label
      case nil => contradiction
      case cons c label =>
        obtain rfl : c = '^' := by simpa [hr] using hh
        refine ⟨iff_of_false (not_stripChars_prefix_unanchored hr hc) (not_not.mpr hh), ?_⟩
        exact fun _ => exists_prefix_unanchored hr
  case right =>
    intro he
    obtain ⟨p, hp, _, _, hsh, _⟩ := compile_of_template he
    cases hd.pattern.symm.trans hp
    have hsh : d.display.toList = Template.display (Template.split raw) := by
      rw [StepDefinition.display, hsh, String.toList_ofList]
    rw [hsh, hr]
    exact Template.stripChars_prefix_display_iff <| hst ▸ hn

theorem exists_of_compile [Runtime] {text : String} (h : compile text = .ok p) (path group : String)
    (line : Int) : ∃ d, ofSite ⟨text, path, line, group⟩ = .ok d ∧ d.display = p.display ∧
      d.screen = String.ofList (StepText.screenTag text.toList) := by
  rw [ofSite, h]
  exact ⟨_, rfl, rfl, rfl⟩

theorem showsScreen_iff_login :
    (∃ d, ofSite ⟨"Login{string}: I type {int}", "a", 1, ""⟩ = .ok d ∧ d.screen ≠ "" ∧
      d.ShowsScreen) ∧
    ∃ d, ofSite ⟨"^Login: I click$", "a", 2, ""⟩ = .ok d ∧ d.screen ≠ "" ∧ ¬d.ShowsScreen := by
  constructor
  case left =>
    have he : StepText.isExpression "Login{string}: I type {int}".toList = false := by decide
    have ⟨p, hp, _⟩ := compile_of_template he
    have ⟨d, h, _, hs⟩ := exists_of_compile hp "a" "" 1
    have hn : d.screen ≠ "" := hs ▸ by decide
    have ⟨_, ht⟩ := showsScreen_iff h hn
    have hc : Template.Closed "Login".toList := .of_not_mem <| by decide
    have hl : Template.IsShown ("Login".toList ++ '{' :: "string".toList ++ '}' :: [])
        ": I type {int}".toList :=
      (Template.isShown_hole_iff hc (by decide) <| by decide).mpr
        ⟨by decide, rfl, (Template.isShown_closed_iff .nil).mpr <| by decide⟩
    refine ⟨d, h, hn, (ht he).mpr ?_⟩
    rw [hs]
    exact hl
  case right =>
    have ⟨p, hp⟩ : ∃ p, compile "^Login: I click$" = .ok p := ⟨_, rfl⟩
    have ⟨d, h, _, hs⟩ := exists_of_compile hp "a" "" 2
    have hn : d.screen ≠ "" := hs ▸ by decide
    have ⟨he, _⟩ := showsScreen_iff h hn
    have ⟨he, _⟩ := he <| by decide
    exact ⟨d, h, hn, mt he.mp <| by decide⟩

-- A placeholder is shown under a name of its own.
theorem not_forall_showsScreen :
    ¬∀ site d, ofSite site = .ok d → d.screen ≠ "" → d.ShowsScreen := by
  intro ha
  have he : StepText.isExpression "{page}: I see it".toList = false := by decide
  have ⟨p, hp, _, _, hd, _⟩ := compile_of_template he
  have ⟨d, h, hd', hs⟩ := exists_of_compile hp "" "" 1
  have hn := ha _ d h <| hs ▸ by decide
  rw [ShowsScreen, hd', hd, hs] at hn
  exact absurd hn <| by decide

end StepDefinition

end StepCatalog
