import Mathlib
import StepCatalog.Proofs.Template.Display
import StepCatalog.Proofs.Text.Trimming

namespace StepCatalog.Template

open List Text

/-! ### Texts around a character -/

section

variable {c : Char}

theorem append_cons_prefix_iff (hn : c ∉ n) (hm : c ∉ m) :
    n ++ c :: x <+: m ++ c :: y ↔ n = m ∧ x <+: y := by
  induction n generalizing m
  case nil =>
    cases m
    case nil => simp
    case cons d m =>
      have ⟨hd, _⟩ := not_or.mp <| mt mem_cons.mpr hm
      simp [hd]
  case cons d n hi =>
    have ⟨hd, hn⟩ := not_or.mp <| mt mem_cons.mpr hn
    cases m
    case nil => simp [Ne.symm hd]
    case cons e m =>
      have ⟨_, hm⟩ := not_or.mp <| mt mem_cons.mpr hm
      rw [cons_append, cons_append, cons_prefix_cons, hi hn hm, cons.injEq, and_assoc]

theorem prefix_append_cons_iff (h : c ∉ t) : t <+: l ++ c :: l' ↔ t <+: l := by
  constructor
  case mp =>
    intro hp
    have hn : ¬l ++ [c] <+: t := fun hc => h <| hc.subset <| by simp
    have hl : l ++ [c] <+: l ++ c :: l' := ⟨l', by simp⟩
    have ho := prefix_or_prefix_of_prefix hp hl
    exact (prefix_concat_iff.mp <| ho.resolve_right hn).resolve_left fun he => hn <| he ▸ prefix_rfl
  case mpr => exact fun hp => hp.trans <| prefix_append ..

theorem suffix_append_cons_iff (h : c ∉ t) : t <:+ l ++ c :: l' ↔ t <:+ l' := by
  constructor
  case mp =>
    intro hs
    have hn : ¬c :: l' <:+ t := fun hc => h <| hc.subset mem_cons_self
    have hs := (suffix_or_suffix_of_suffix hs <| suffix_append l (c :: l')).resolve_right hn
    exact (suffix_cons_iff.mp hs).resolve_left fun he => hn <| he ▸ suffix_rfl
  case mpr => exact fun hs => hs.trans ⟨l ++ [c], by simp⟩

end

/-! ### The names of placeholders -/

-- A template has its first placeholder in one place only.
theorem hole_inj (hs : Closed s) (hn : n ≠ []) (hc : '}' ∉ n) (hs' : Closed s') (hn' : n' ≠ [])
    (hc' : '}' ∉ n') (h : s ++ '{' :: n ++ '}' :: raw = s' ++ '{' :: n' ++ '}' :: raw') :
    n = n' ∧ raw = raw' := by
  have hd := Splits.hole hs hn hc <| splits_split raw
  have hd' := Splits.hole hs' hn' hc' <| splits_split raw'
  have ⟨he, _⟩ := cons.inj <| (h ▸ hd).split_eq.symm.trans hd'.split_eq
  rw [he, append_assoc, append_assoc] at h
  have h : n ++ '}' :: raw = n' ++ '}' :: raw' := (cons.inj <| append_cancel_left h).right
  have hp : n ++ '}' :: raw <+: n' ++ '}' :: raw' := h ▸ prefix_rfl
  have ⟨he, _⟩ := (append_cons_prefix_iff hc hc').mp hp
  rw [he] at h
  exact ⟨he, (cons.inj <| append_cancel_left h).right⟩

theorem hasPlaceholder_hole_iff (hs : Closed s) (hn : n ≠ []) (hc : '}' ∉ n) :
    HasPlaceholder (s ++ '{' :: n ++ '}' :: raw) m ↔ m = n ∨ HasPlaceholder raw m := by
  constructor
  case mp =>
    generalize ht : s ++ '{' :: n ++ '}' :: raw = t
    intro h
    cases h
    case first hs' hn' hc' => exact .inl (hole_inj hs hn hc hs' hn' hc' ht).left.symm
    case later hs' hn' hc' h =>
      exact .inr <| (hole_inj hs hn hc hs' hn' hc' ht).right ▸ h
  case mpr =>
    rintro (rfl | h)
    case inl => exact .first hs hn hc
    case inr => exact .later hs hn hc h

theorem HasPlaceholder.split_eq (h : HasPlaceholder raw n) :
    ∃ s rest, split raw = s :: split rest := by
  cases h
  case first hs hn hc => exact ⟨_, _, (Splits.hole hs hn hc <| splits_split _).split_eq⟩
  case later hs hn hc _ => exact ⟨_, _, (Splits.hole hs hn hc <| splits_split _).split_eq⟩

theorem IsLiteral.not_hasPlaceholder (h : IsLiteral s) : ¬HasPlaceholder s n := by
  intro hp
  have ⟨_, rest, hs⟩ := hp.split_eq
  rw [(Splits.last h).split_eq] at hs
  exact (splits_split rest).ne_nil (cons.inj hs).right.symm

-- A brace that nothing closes stands behind a text where every brace is closed right away.
theorem Closed.suffix_of_append (h : Closed s) (hn : '}' ∉ n) (hs : '{' :: n <:+ s ++ t) :
    '{' :: n <:+ t := by
  induction h
  case nil => exact hs
  case braces hi =>
    rcases suffix_cons_iff.mp hs with he | hs
    case inl => exact absurd ((cons.inj he).right ▸ mem_cons_self) hn
    case inr =>
      rcases suffix_cons_iff.mp hs with he | hs
      case inl => exact absurd (cons.inj he).left <| by decide
      case inr => exact hi hs
  case char hc _ hi =>
    rcases suffix_cons_iff.mp hs with he | hs
    case inl => exact absurd (cons.inj he).left.symm hc
    case inr => exact hi hs

/-! ### What is shown of two texts in a row -/

theorem Closed.join_split_append (h : Closed s) (between t : List Char) :
    join between (split (s ++ t)) = s ++ join between (split t) := by
  have ht := splits_split t
  generalize split t = segments at ht
  cases ht
  case last hl =>
    have hl : IsLiteral (s ++ t) := by
      cases hl
      case closed hl => exact .closed <| h.append hl
      case unclosed hl hn => exact append_assoc s .. ▸ .unclosed (h.append hl) hn
    rw [(Splits.last hl).split_eq]
    rfl
  case hole hs hn hc hr =>
    have hd := Splits.hole (h.append hs) hn hc hr
    rw [join_cons hr.ne_nil, ← append_assoc, ← append_assoc, hd.split_eq, join_cons hr.ne_nil]
    simp

-- A text is shown as it is up to its end if no wildcard stands in it.
theorem append_prefix_showWildcards_iff (s x y : List Char) :
    s ++ x <+: showWildcards s ++ y ↔ ¬wildcard <:+: s ∧ x <+: y := by
  fun_induction showWildcards s
  case case1 s _ =>
    have hw : wildcard <:+: '.' :: '*' :: s := ⟨[], s, rfl⟩
    simp [hw, placeholder]
  case case2 c s hn hi =>
    have hw : ¬wildcard <+: c :: s := by
      rintro ⟨t, ht⟩
      exact hn t (cons.inj ht).left.symm (cons.inj ht).right.symm
    rw [cons_append, cons_append, cons_prefix_cons, hi, infix_cons_iff, or_iff_right hw]
    simp
  case case3 => simp [wildcard]

theorem infix_wildcard_append_iff (hy : y.head? ≠ some '*') (s : List Char) :
    wildcard <:+: s ++ y ↔ wildcard <:+: s ∨ wildcard <:+: y := by
  have hw (s : List Char) : s <+: showWildcards s ↔ ¬wildcard <:+: s := by
    simpa using append_prefix_showWildcards_iff s [] []
  rw [← not_iff_not, ← hw, showWildcards_append hy, append_prefix_showWildcards_iff, hw, not_or]

theorem display_cons (h : segments ≠ []) (s : List Char) :
    display (s :: segments) = showWildcards s ++ (placeholder ++ display segments) := by
  rw [display, join_cons h, showWildcards_append_placeholder, append_assoc, display]

theorem placeholder_append (t : List Char) :
    placeholder ++ t = '{' :: ("string".toList ++ '}' :: t) := rfl

/-! ### Labels -/

-- A label at the start of a template is shown as it is written: there is no wildcard in its literal
-- text, its placeholders are named like those that are shown, and so is a placeholder that ends
-- behind it, as far as its name is in the label.
structure IsShown (label rest : List Char) : Prop where
  literal : ∀ s ∈ split label, ¬wildcard <:+: s
  named : ∀ n, HasPlaceholder label n → n = "string".toList
  unclosed : ∀ n, '{' :: n <:+ label → '}' ∉ n → '}' ∈ rest → n <+: "string".toList

theorem isShown_closed_iff (h : Closed s) : IsShown s rest ↔ ¬wildcard <:+: s := by
  have hl : IsLiteral s := .closed h
  refine ⟨fun hs => hs.literal s <| by simp [(Splits.last hl).split_eq], fun hw => ?_⟩
  constructor
  case literal => simpa [(Splits.last hl).split_eq] using hw
  case named => exact fun _ hp => absurd hp hl.not_hasPlaceholder
  case unclosed =>
    intro n hs hn
    have := h.suffix_of_append hn <| (append_nil s).symm ▸ hs
    simp at this

theorem isShown_hole_iff (hs : Closed s) (hn : n ≠ []) (hc : '}' ∉ n) :
    IsShown (s ++ '{' :: n ++ '}' :: label) rest ↔
      ¬wildcard <:+: s ∧ n = "string".toList ∧ IsShown label rest := by
  have hd := (Splits.hole hs hn hc <| splits_split label).split_eq
  have hu (m : List Char) (hm : '}' ∉ m) :
      '{' :: m <:+ s ++ '{' :: n ++ '}' :: label ↔ '{' :: m <:+ label :=
    suffix_append_cons_iff <| by simp [hm]
  constructor
  case mp =>
    intro h
    have ⟨hw, hl⟩ := forall_mem_cons.mp <| hd ▸ h.literal
    refine ⟨hw, h.named n <| .first hs hn hc, hl, ?_, ?_⟩
    case refine_1 => exact fun m hm => h.named m <| .later hs hn hc hm
    case refine_2 => exact fun m he hm => h.unclosed m ((hu m hm).mpr he) hm
  case mpr =>
    intro ⟨hw, hm, h⟩
    constructor
    case literal => exact hd ▸ forall_mem_cons.mpr ⟨hw, h.literal⟩
    case named =>
      intro m hp
      exact ((hasPlaceholder_hole_iff hs hn hc).mp hp).elim (· ▸ hm) (h.named m)
    case unclosed => exact fun m he hm => h.unclosed m ((hu m hm).mp he) hm

-- A brace that is closed behind a label opens a placeholder there.
theorem isShown_unclosed_iff (hs : Closed s) (hn : '}' ∉ n) : IsShown (s ++ '{' :: n) rest ↔
    ¬wildcard <:+: s ++ '{' :: n ∧ ('}' ∈ rest → n <+: "string".toList) := by
  have hl : IsLiteral (s ++ '{' :: n) := .unclosed hs hn
  refine ⟨fun h => ⟨?_, h.unclosed n (suffix_append ..) hn⟩, fun ⟨hw, h⟩ => ?_⟩
  case refine_1 => exact h.literal _ <| by simp [(Splits.last hl).split_eq]
  case refine_2 =>
    constructor
    case literal => simpa [(Splits.last hl).split_eq] using hw
    case named => exact fun _ hp => absurd hp hl.not_hasPlaceholder
    case unclosed =>
      intro m hm hc hr
      rcases suffix_cons_iff.mp <| hs.suffix_of_append hc hm with he | hm
      case inl => exact (cons.inj he).right ▸ h hr
      case inr => exact absurd ((h hr).subset <| hm.subset mem_cons_self) <| by decide

theorem prefix_display_closed_iff (h : Closed s) (hs : rest.head? ≠ some '*') :
    s <+: display (split (s ++ rest)) ↔ IsShown s rest := by
  have hj : (join placeholder (split rest)).head? ≠ some '*' := by
    rwa [(splits_split rest).head?_join_placeholder]
  have hp := append_prefix_showWildcards_iff s [] <|
    showWildcards <| join placeholder <| split rest
  rw [display, h.join_split_append, showWildcards_append hj, isShown_closed_iff h]
  simpa using hp

theorem prefix_display_unclosed_iff (h : Closed s) (hn : '}' ∉ n) (hs : rest.head? ≠ some '*')
    (hc : rest.head? ≠ some '}') :
    s ++ '{' :: n <+: display (split (s ++ '{' :: n ++ rest)) ↔ IsShown (s ++ '{' :: n) rest := by
  rw [isShown_unclosed_iff h hn]
  by_cases hr : '}' ∈ rest
  case neg =>
    have hl : IsLiteral (s ++ '{' :: (n ++ rest)) := .unclosed h <| by simp [hn, hr]
    have hp := append_prefix_showWildcards_iff (s ++ '{' :: n) [] <| showWildcards rest
    rw [append_assoc, cons_append, (Splits.last hl).split_eq, display, join, ← cons_append,
      ← append_assoc, showWildcards_append hs]
    simpa [hr] using hp
  case pos =>
    -- The name of the placeholder goes on behind the label.
    obtain ⟨u, v, he, hu⟩ := eq_append_cons_of_mem hr
    have hm : n ++ u ≠ [] := by
      intro hm
      have hm := append_eq_nil_iff.mp hm |>.right
      exact hc <| by rw [he, hm]; rfl
    have hd := (Splits.hole h hm (by simp [hn, hu]) <| splits_split v).split_eq
    have ht : s ++ '{' :: n ++ rest = s ++ '{' :: (n ++ u) ++ '}' :: v := by simp [he]
    have hw (hn : n <+: "string".toList) : ¬wildcard <:+: '{' :: n := fun hw => by
      have hm : '*' ∈ '{' :: n := hw.subset <| by decide
      exact absurd (hn.subset <| mem_of_ne_of_mem (by decide) hm) <| by decide
    rw [ht, hd, display_cons (splits_split v).ne_nil, append_prefix_showWildcards_iff,
      placeholder_append, cons_prefix_cons, prefix_append_cons_iff hn,
      infix_wildcard_append_iff (by simp)]
    simp only [true_and, hr, true_imp_iff, not_or]
    exact and_congr_left fun hn => (and_iff_left <| hw hn).symm

-- Neither a wildcard nor a pair of braces stands across the end of the label.
theorem prefix_display_iff (hs : rest.head? ≠ some '*') (hc : rest.head? ≠ some '}') :
    label <+: display (split (label ++ rest)) ↔ IsShown label rest := by
  have h := splits_split label
  generalize split label = segments at h
  induction h
  case last h =>
    cases h
    case closed h => exact prefix_display_closed_iff h hs
    case unclosed h hn => exact prefix_display_unclosed_iff h hn hs hc
  case hole s n label _ ha hn hm _ hi =>
    have hd := (Splits.hole ha hn hm <| splits_split (label ++ rest)).split_eq
    have ht : s ++ '{' :: n ++ '}' :: label ++ rest = s ++ '{' :: n ++ '}' :: (label ++ rest) := by
      simp
    rw [isShown_hole_iff ha hn hm, ht, hd, display_cons (splits_split _).ne_nil, append_assoc,
      append_prefix_showWildcards_iff, placeholder_append, cons_append, cons_prefix_cons,
      append_cons_prefix_iff hm (by decide)]
    simp only [true_and]
    exact and_congr_right' <| and_congr_right' hi

theorem IsShown.mono (h : IsShown label rest) (hr : '}' ∈ rest' → '}' ∈ rest) :
    IsShown label rest' where
  literal := h.literal
  named := h.named
  unclosed n hn hc hm := h.unclosed n hn hc <| hr hm

/-! ### Labels with blanks around them -/

theorem Closed.of_not_mem (h : '{' ∉ s) : Closed s := by
  induction s
  case nil => exact .nil
  case cons c s hi =>
    have ⟨hc, hs⟩ := not_or.mp <| mt mem_cons.mpr h
    exact .char (Ne.symm hc) <| hi hs

theorem showWildcards_append_of_not_mem (h : '.' ∉ s) (t : List Char) :
    showWildcards (s ++ t) = s ++ showWildcards t := by
  induction s
  case nil => rfl
  case cons c s hi =>
    have ⟨hc, hs⟩ := not_or.mp <| mt mem_cons.mpr h
    rw [cons_append, showWildcards, hi hs, cons_append]
    case x_1 => exact fun _ he _ => hc he.symm

theorem head?_display_split (raw : List Char) :
    (display (split raw)).head? = raw.head? ∨ (display (split raw)).head? = some '{' := by
  have h := head?_showWildcards <| join placeholder <| split raw
  rwa [(splits_split raw).head?_join_placeholder] at h

theorem display_split_append_of_isBlank (h : ∀ c ∈ s, isBlank c) (t : List Char) :
    display (split (s ++ t)) = s ++ display (split t) := by
  have hs {c : Char} (hc : isBlank c = false) : c ∉ s := fun hm =>
    absurd (h c hm) <| ne_true_of_eq_false hc
  rw [display, (Closed.of_not_mem <| hs <| by decide).join_split_append,
    showWildcards_append_of_not_mem <| hs <| by decide, display]

theorem stripStart_display_split (h : stripStart raw = raw) :
    stripStart (display (split raw)) = display (split raw) := by
  rw [stripStart_eq_self_iff] at h ⊢
  rcases head?_display_split raw with he | he <;> rw [he]
  case inl => exact h
  case inr => exact fun _ hc => Option.some.inj hc ▸ by decide

theorem head?_append_cons_ne (hb : ∀ c ∈ s, isBlank c) (hc : isBlank c = false) (hn : d ≠ c) :
    (s ++ d :: t).head? ≠ some c := by
  cases s
  case nil => simpa using hn
  case cons b s =>
    intro he
    exact absurd (hb b mem_cons_self) <| ne_true_of_eq_false <| Option.some.inj he ▸ hc

-- Blanks around a label make no difference, as they are shown as they are.
theorem stripChars_prefix_display_iff (h : stripChars label ≠ []) :
    stripChars label <+: stripStart (display (split (label ++ ':' :: rest))) ↔
      IsShown (stripChars label) (':' :: rest) := by
  have ⟨front, back, hl, hf, hb⟩ := exists_stripChars_append label
  have hs : stripStart (stripChars label ++ (back ++ ':' :: rest)) =
      stripChars label ++ (back ++ ':' :: rest) := by
    have ht := stripStart_eq_self_iff.mp <| stripStart_stripChars label
    rwa [stripStart_eq_self_iff, head?_append_of_ne_nil _ h]
  have hm : '}' ∈ back ++ ':' :: rest ↔ '}' ∈ ':' :: rest := by
    have hn : '}' ∉ back := fun hm => absurd (hb _ hm) <| by decide
    rw [mem_append, or_iff_right hn]
  have he : label ++ ':' :: rest = front ++ (stripChars label ++ (back ++ ':' :: rest)) := by
    simpa using congrArg (· ++ ':' :: rest) hl
  rw [he, display_split_append_of_isBlank hf, stripStart, dropWhile_append_of_pos hf, ← stripStart,
    stripStart_display_split hs,
    prefix_display_iff (head?_append_cons_ne hb (by decide) <| by decide)
      (head?_append_cons_ne hb (by decide) <| by decide)]
  exact ⟨fun h => h.mono hm.mpr, fun h => h.mono hm.mp⟩

end StepCatalog.Template
