import Mathlib
import StepCatalog.Proofs.Template.Language

namespace StepCatalog

namespace Template

open List

/-! ### Segments -/

-- One template accepts every text on one line that another one accepts.
def Covers (wide narrow : List (List Char)) : Prop :=
  ∀ t, '\n' ∉ t → Fits narrow t → Fits wide t

theorem Covers.trans (h₁ : Covers wide middle) (h₂ : Covers middle narrow) : Covers wide narrow :=
  fun t ht h => h₁ t ht <| h₂ t ht h

theorem fits_cons_iff (h : rest ≠ []) :
    Fits (s :: rest) t ↔ ∃ l w u, t = l ++ w ++ u ∧ SameLetters s l ∧ '\n' ∉ w ∧ Fits rest u := by
  cases rest
  case nil => contradiction
  case cons => rfl

theorem fits_append (hs : segments ≠ []) (hr : rest ≠ []) (hw : '\n' ∉ w) (hl : Fits segments l)
    (hu : Fits rest u) : Fits (segments ++ rest) (l ++ w ++ u) := by
  induction segments generalizing l
  case nil => contradiction
  case cons s segments hi =>
    cases segments
    case nil => exact (fits_cons_iff hr).mpr ⟨l, w, u, rfl, hl, hw, hu⟩
    case cons s' segments =>
      have ⟨l', w', u', ht, hl', hw', h⟩ := hl
      refine ⟨l', w', u' ++ w ++ u, by simp [ht], hl', hw', ?_⟩
      exact hi (cons_ne_nil _ _) h

theorem sameLetters_append_iff {a b l : List Char} :
    SameLetters (a ++ b) l ↔ ∃ u v, l = u ++ v ∧ SameLetters a u ∧ SameLetters b v := by
  simp only [← spells_letters_iff, map_append, spells_letters_append_iff]

/-! ### Wildcards in literal text -/

-- The pieces of a text between the wildcards that stand in it.
def literals : List Char → List (List Char)
  | '.' :: '*' :: cs => [] :: literals cs
  | c :: cs => Text.consHead c (literals cs)
  | [] => [[]]

theorem literals_ne_nil (s : List Char) : literals s ≠ [] := by
  fun_induction literals s
  case case1 => exact cons_ne_nil _ _
  case case2 c s _ _ => cases literals s <;> exact cons_ne_nil _ _
  case case3 => exact cons_ne_nil _ _

theorem flatMap_literals_ne_nil (h : segments ≠ []) : segments.flatMap literals ≠ [] := by
  cases segments
  case nil => contradiction
  case cons s _ => simp [literals_ne_nil s]

theorem literals_eq_singleton (h : ¬wildcard <:+: s) : literals s = [s] := by
  fun_induction literals s
  case case1 s _ => exact absurd ⟨[], s, rfl⟩ h
  case case2 c s _ hi => rw [hi fun hs => h <| hs.trans <| (suffix_cons c s).isInfix]; rfl
  case case3 => rfl

theorem join_cons {rest : List (List Char)} (h : rest ≠ []) (between s : List Char) :
    join between (s :: rest) = s ++ between ++ join between rest := by
  cases rest
  case nil => contradiction
  case cons => rfl

theorem join_append {a b : List (List Char)} (ha : a ≠ []) (hb : b ≠ []) (between : List Char) :
    join between (a ++ b) = join between a ++ between ++ join between b := by
  induction a
  case nil => contradiction
  case cons s a hi =>
    cases a
    case nil => exact join_cons hb between s
    case cons s' a =>
      have hn : s' :: a ++ b ≠ [] := cons_ne_nil _ _
      rw [cons_append, join_cons hn, hi <| cons_ne_nil _ _, join_cons <| cons_ne_nil _ _]
      simp

theorem join_consHead {rest : List (List Char)} (h : rest ≠ []) (between : List Char) (c : Char) :
    join between (Text.consHead c rest) = c :: join between rest := by
  cases rest
  case nil => contradiction
  case cons s rest => cases rest <;> rfl

theorem showWildcards_eq (s : List Char) : showWildcards s = join placeholder (literals s) := by
  fun_induction literals s
  case case1 s hi => rw [join_cons <| literals_ne_nil s, ← hi]; rfl
  case case2 c s hn hi => rw [join_consHead <| literals_ne_nil s, ← hi, showWildcards]; exact hn
  case case3 => rfl

-- No wildcard stands across the end of a text where the next one does not begin with a star.
theorem showWildcards_append (hy : y.head? ≠ some '*') (s : List Char) :
    showWildcards (s ++ y) = showWildcards s ++ showWildcards y := by
  fun_induction showWildcards s
  case case1 s hi => simpa [showWildcards] using hi
  case case2 c s hn hi =>
    rw [cons_append, showWildcards, hi]
    case x_1 =>
      intro cs hc hs
      cases s
      case nil => exact hy <| by rw [← nil_append y, hs]; rfl
      case cons d s => exact hn s hc <| congrArg (· :: s) (cons.inj hs).left
    rfl
  case case3 => rfl

theorem showWildcards_append_placeholder (s t : List Char) :
    showWildcards (s ++ placeholder ++ t) = showWildcards s ++ placeholder ++ showWildcards t := by
  have hp : showWildcards (placeholder ++ t) = placeholder ++ showWildcards t := by
    simp [showWildcards, placeholder]
  rw [append_assoc, showWildcards_append (by simp [placeholder]), hp, append_assoc]

theorem display_eq (h : segments ≠ []) :
    display segments = join placeholder (segments.flatMap literals) := by
  rw [display]
  induction segments
  case nil => contradiction
  case cons s rest hi =>
    cases rest
    case nil => simpa [join] using showWildcards_eq s
    case cons s' rest =>
      have hr : s' :: rest ≠ [] := cons_ne_nil _ _
      rw [flatMap_cons, join_append (literals_ne_nil s) (flatMap_literals_ne_nil hr), join_cons hr,
        showWildcards_append_placeholder, hi hr, showWildcards_eq]

theorem fits_consHead (h : segments ≠ []) (hc : Unicode.SameLetter c.toNat d.toNat)
    (hl : Fits segments l) : Fits (Text.consHead c segments) (d :: l) := by
  cases segments
  case nil => contradiction
  case cons s segments =>
    cases segments
    case nil => exact .cons hc hl
    case cons s' segments =>
      have ⟨l, w, u, ht, hs, hw, hu⟩ := hl
      exact ⟨d :: l, w, u, by simp [ht], .cons hc hs, hw, hu⟩

theorem fits_literals (h : SameLetters s l) (hn : '\n' ∉ l) : Fits (literals s) l := by
  fun_induction literals s generalizing l
  case case1 s hi =>
    cases h with | cons _ h => cases h with | @cons _ _ _ l _ h =>
    have ⟨hn₁, hn⟩ := not_or.mp <| mt mem_cons.mpr hn
    have ⟨hn₂, hn⟩ := not_or.mp <| mt mem_cons.mpr hn
    exact (fits_cons_iff <| literals_ne_nil s).mpr
      ⟨[], [_, _], l, rfl, .nil, by simp [hn₁, hn₂], hi h hn⟩
  case case2 c s _ hi =>
    cases h
    case cons hc h =>
      have ⟨_, hn⟩ := not_or.mp <| mt mem_cons.mpr hn
      exact fits_consHead (literals_ne_nil s) hc <| hi h hn
  case case3 => exact h

-- A literal wildcard stands for itself, and that is a text on one line.
theorem covers_literals (segments : List (List Char)) :
    Covers (segments.flatMap literals) segments := by
  intro t ht h
  induction segments generalizing t
  case nil => contradiction
  case cons s rest hi =>
    cases rest
    case nil => simpa using fits_literals h ht
    case cons s' rest =>
      obtain ⟨l, w, u, rfl, hl, hw, hu⟩ := h
      simp only [mem_append, not_or] at ht
      rw [flatMap_cons]
      exact fits_append (literals_ne_nil s) (flatMap_literals_ne_nil <| cons_ne_nil _ _) hw
        (fits_literals hl ht.left.left) (hi u ht.right hu)

theorem literals_cons (c : Char) (s : List Char) :
    literals (c :: s) = Text.consHead c (literals s) ∨
      ∃ cs, c = '.' ∧ s = '*' :: cs ∧ literals (c :: s) = [] :: literals cs := by
  by_cases h : ∃ cs, c = '.' ∧ s = '*' :: cs
  case pos =>
    obtain ⟨cs, rfl, rfl⟩ := h
    exact .inr ⟨cs, rfl, rfl, rfl⟩
  case neg =>
    rw [literals]
    case x_1 => exact fun cs hc hs => h ⟨cs, hc, hs⟩
    exact .inl rfl

theorem literals_subset (s : List Char) : ∀ k ∈ literals s, k ⊆ s := by
  fun_induction literals s
  case case1 s hi =>
    refine forall_mem_cons.mpr ⟨nil_subset _, ?_⟩
    intro k hk
    exact subset_cons_of_subset _ <| subset_cons_of_subset _ <| hi k hk
  case case2 c s _ hi =>
    have ⟨k, ks, hk⟩ := exists_cons_of_ne_nil <| literals_ne_nil s
    simp only [hk, Text.consHead, forall_mem_cons] at hi ⊢
    exact ⟨cons_subset_cons c hi.left, fun j hj => subset_cons_of_subset c <| hi.right j hj⟩
  case case3 => simp

theorem literals_char (hc : c ≠ '{') (h : ∀ k ∈ literals s, IsLiteral k) :
    ∀ k ∈ literals (c :: s), IsLiteral k := by
  rcases literals_cons c s with he | ⟨cs, rfl, rfl, he⟩
  case inl =>
    have ⟨k, ks, hk⟩ := exists_cons_of_ne_nil <| literals_ne_nil s
    simp only [he, hk, Text.consHead, forall_mem_cons] at h ⊢
    exact ⟨.char hc h.left, h.right⟩
  case inr =>
    have ⟨k, ks, hk⟩ := exists_cons_of_ne_nil <| literals_ne_nil cs
    have hs : literals ('*' :: cs) = ('*' :: k) :: ks := by simp [literals, hk, Text.consHead]
    simp only [he, hk, hs, forall_mem_cons] at h ⊢
    exact ⟨.closed .nil, .of_char (by decide) h.left, h.right⟩

theorem literals_braces (h : ∀ k ∈ literals s, IsLiteral k) :
    ∀ k ∈ literals ('{' :: '}' :: s), IsLiteral k := by
  have ⟨k, ks, hk⟩ := exists_cons_of_ne_nil <| literals_ne_nil s
  have hs : literals ('{' :: '}' :: s) = ('{' :: '}' :: k) :: ks := by
    simp [literals, hk, Text.consHead]
  simp only [hk, hs, forall_mem_cons] at h ⊢
  exact ⟨.braces h.left, h.right⟩

-- A wildcard stands in no pair of braces, so that no piece of a text without placeholders has one.
theorem IsLiteral.literals (h : IsLiteral s) : ∀ k ∈ literals s, IsLiteral k := by
  have closed {s n : List Char} (h : Closed s) (hn : ∀ k ∈ Template.literals n, IsLiteral k) :
      ∀ k ∈ Template.literals (s ++ n), IsLiteral k := by
    induction h
    case nil => exact hn
    case braces hi => exact literals_braces hi
    case char hc _ hi => exact literals_char hc hi
  cases h
  case closed h =>
    have := closed h (n := []) <| by simpa [Template.literals] using .closed .nil
    simpa using this
  case unclosed s n h hn =>
    refine closed h ?_
    intro k hk
    have hs : '}' ∉ '{' :: n := by simp [hn]
    exact .of_not_mem fun hm => hs <| literals_subset _ k hk hm

/-! ### Splitting what is shown -/

-- A brace that nothing closes in its segment is closed by the placeholder after it, which takes
-- in all that stands between the two.
theorem exists_splits_join (hs : segments ≠ []) (h : ∀ s ∈ segments, IsLiteral s) :
    ∃ shown, Splits (join placeholder segments) shown ∧ Covers shown segments := by
  induction segments
  case nil => contradiction
  case cons s rest hi =>
    have ⟨hl, h⟩ := forall_mem_cons.mp h
    cases rest
    case nil => exact ⟨[s], .last hl, fun _ _ h => h⟩
    case cons s' rest =>
      have ⟨shown, hd, hc⟩ := hi (cons_ne_nil _ _) h
      rw [join_cons <| cons_ne_nil _ _]
      cases hl
      case closed hl =>
        have hd' := Splits.hole hl (n := "string".toList) (by decide) (by decide) hd
        refine ⟨s :: shown, by simpa [placeholder] using hd', ?_⟩
        intro t ht ⟨l, w, u, he, hs, hw, hu⟩
        have hn : '\n' ∉ u := fun hm => ht <| by simp [he, hm]
        exact (fits_cons_iff hd.ne_nil).mpr ⟨l, w, u, he, hs, hw, hc u hn hu⟩
      case unclosed a n hl hn =>
        have hd' := Splits.hole hl (n := n ++ "\x7bstring".toList) (by simp) (by simp [hn]) hd
        refine ⟨a :: shown, by simpa [placeholder] using hd', ?_⟩
        intro t ht ⟨l, w, u, he, hs, hw, hu⟩
        have ⟨l, b, hl, ha, _⟩ := sameLetters_append_iff.mp hs
        have hn : '\n' ∉ b ++ w ∧ '\n' ∉ u := by simp_all
        exact (fits_cons_iff hd.ne_nil).mpr
          ⟨l, b ++ w, u, by simp [he, hl], ha, hn.left, hc u hn.right hu⟩

namespace Splits

theorem join_placeholder (h : Splits raw segments) :
    Splits (join placeholder segments) segments := by
  induction h
  case last h => exact .last h
  case hole s _ _ _ hs _ _ h hi =>
    have hd := Splits.hole hs (n := "string".toList) (by decide) (by decide) hi
    rw [join_cons h.ne_nil]
    simpa [placeholder] using hd

-- With other names in its placeholders a template begins and ends as before.
theorem head?_join_placeholder (h : Splits raw segments) :
    (join placeholder segments).head? = raw.head? := by
  cases h
  case last => rfl
  case hole s _ _ _ _ _ _ h =>
    rw [join_cons h.ne_nil]
    cases s <;> rfl

theorem getLast?_join_placeholder (h : Splits raw segments) :
    (join placeholder segments).getLast? = raw.getLast? := by
  induction h
  case last => rfl
  case hole raw _ _ _ _ h hi =>
    rw [join_cons h.ne_nil]
    simp only [getLast?_append, getLast?_cons, hi]
    cases raw.getLast? <;> rfl

theorem mem_join_placeholder (h : Splits raw segments) (hc : c ∈ join placeholder segments) :
    c ∈ raw ∨ c ∈ placeholder := by
  induction h
  case last => exact .inl hc
  case hole h hi =>
    rw [join_cons h.ne_nil] at hc
    simp only [mem_append, mem_cons] at hc ⊢
    tauto

end Splits

theorem head?_showWildcards (s : List Char) :
    (showWildcards s).head? = s.head? ∨ (showWildcards s).head? = some '{' := by
  fun_cases showWildcards s
  case case1 => exact .inr rfl
  case case2 => exact .inl rfl
  case case3 => exact .inl rfl

theorem getLast?_showWildcards (s : List Char) :
    (showWildcards s).getLast? = s.getLast? ∨ (showWildcards s).getLast? = some '}' := by
  fun_induction showWildcards s
  case case1 s hi =>
    simp only [getLast?_append, getLast?_cons]
    cases hs : s.getLast? <;> rcases hi with h | h <;> simp [h, hs, placeholder]
  case case2 c s _ hi =>
    simp only [getLast?_cons]
    cases hs : s.getLast? <;> rcases hi with h | h <;> simp [h, hs]
  case case3 => exact .inl rfl

theorem mem_showWildcards (h : c ∈ showWildcards s) : c ∈ s ∨ c ∈ placeholder := by
  fun_induction showWildcards s
  case case1 s hi =>
    simp only [mem_append, mem_cons] at h ⊢
    tauto
  case case2 =>
    simp only [mem_cons] at h ⊢
    tauto
  case case3 => exact .inl h

theorem covers_split_display (raw : List Char) :
    Covers (split (display (split raw))) (split raw) := by
  have hs := splits_split raw
  have hl : ∀ k ∈ (split raw).flatMap literals, IsLiteral k := by
    intro k hk
    have ⟨s, hm, hk⟩ := mem_flatMap.mp hk
    exact (hs.isLiteral s hm).literals k hk
  have ⟨shown, hd, hc⟩ := exists_splits_join (flatMap_literals_ne_nil hs.ne_nil) hl
  rw [display_eq hs.ne_nil, hd.split_eq]
  exact hc.trans <| covers_literals _

-- A brace that nothing closes comes to an end at what is shown of the wildcard behind it.
example : split (display (split "pay \x7bthe .* sum".toList)) = ["pay ".toList, " sum".toList] := by
  decide

theorem split_display (h : ∀ s ∈ split raw, ¬wildcard <:+: s) :
    split (display (split raw)) = split raw := by
  have hs := splits_split raw
  have hl : ∀ s ∈ split raw, literals s = [s] := fun s hm => literals_eq_singleton <| h s hm
  rw [display_eq hs.ne_nil, flatMap_congr hl, flatMap_singleton', hs.join_placeholder.split_eq]

end Template

open Template

/-! ### What is shown -/

namespace StepText

-- What is shown of a template is not taken for an expression: what braces and letters it has more
-- than the template are in its placeholders.
theorem isExpression_display (h : isExpression raw = false) :
    isExpression (display (split raw)) = false := by
  have hs := splits_split raw
  have ⟨h₁, h₂, h₃, h₄⟩ := isExpression_eq_false_iff.mp h
  have hm (c : Char) (hp : c ∉ placeholder) (hr : c ∉ raw) : c ∉ display (split raw) := by
    intro hc
    rcases mem_showWildcards hc with hc | hc
    case inl => exact (hs.mem_join_placeholder hc).elim hr hp
    case inr => exact hp hc
  refine isExpression_eq_false_iff.mpr ⟨?_, ?_, hm _ (by decide) h₃, ?_⟩
  case refine_1 =>
    rcases head?_showWildcards (join placeholder (split raw)) with he | he <;> rw [display, he]
    case inl => rwa [hs.head?_join_placeholder]
    case inr => decide
  case refine_2 =>
    rcases getLast?_showWildcards (join placeholder (split raw)) with he | he <;> rw [display, he]
    case inl => rwa [hs.getLast?_join_placeholder]
    case inr => decide
  case refine_3 => exact h₄.imp (hm _ (by decide)) (hm _ (by decide))

end StepText

namespace StepPattern

theorem compile_of_template [Runtime] {raw : String}
    (h : StepText.isExpression raw.toList = false) :
    ∃ p, compile raw = .ok p ∧ p.source = String.ofList (StepText.source raw.toList) ∧
      Regex.Program.ofPattern (StepText.source raw.toList) stepFlags = .ok p.program ∧
      p.display = String.ofList (Template.display (split raw.toList)) ∧
      ∀ text : String, ∃ b, p.accepts text = .ok b ∧ (b ↔ Fits (split raw.toList) text.toList) := by
  have ⟨program, hp, hm⟩ := StepText.exists_program_of_template h
  have hn := (splits_split raw.toList).ne_nil
  have hc := StepText.compiles_of_template h
  simp only [compile, hc, hp, Bool.not_true, Bool.false_eq_true, if_false]
  refine ⟨_, rfl, rfl, rfl, ?_, fun text => hm text.toList⟩
  simp [display, isTemplated, h, hn, Function.comp_def]

-- The readable form of a template is a template again. It accepts at least as much on one line, and
-- it is the very same template, up to the names of its placeholders, where no literal text has a
-- wildcard in it.
theorem compile_display [Runtime] (raw : String) (h : StepText.isExpression raw.toList = false) :
    ∃ p q, compile raw = .ok p ∧ StepText.isExpression p.display.toList = false ∧
      compile p.display = .ok q ∧
      (∀ text : String, '\n' ∉ text.toList → p.accepts text = .ok true →
        q.accepts text = .ok true) ∧
      ((∀ s ∈ split raw.toList, ¬wildcard <:+: s) →
        split p.display.toList = split raw.toList ∧ q.source = p.source ∧
        (∀ text, q.accepts text = p.accepts text) ∧ q.display = p.display) := by
  have ⟨p, hp, hps, hpp, hpd, hpa⟩ := compile_of_template h
  have hd : StepText.isExpression p.display.toList = false := by
    rw [hpd, String.toList_ofList]
    exact StepText.isExpression_display h
  have ⟨q, hq, hqs, hqp, hqd, hqa⟩ := compile_of_template hd
  refine ⟨p, q, hp, hd, hq, ?_, ?_⟩
  case refine_1 =>
    intro text hn ha
    have ⟨b, hb, hf⟩ := hpa text
    have ⟨b', hb', hf'⟩ := hqa text
    have hp : Fits (split raw.toList) text.toList := hf.mp <| Except.ok.inj <| hb.symm.trans ha
    have hq : Fits (split p.display.toList) text.toList := by
      rw [hpd, String.toList_ofList]
      exact covers_split_display _ _ hn hp
    rw [hb', hf'.mpr hq]
  case refine_2 =>
    intro hw
    have hs : split p.display.toList = split raw.toList := by
      rw [hpd, String.toList_ofList, split_display hw]
    have hs' : StepText.source p.display.toList = StepText.source raw.toList := by
      simp only [StepText.source, hd, h, hs, Bool.false_eq_true, if_false]
    have hprog : q.program = p.program := Except.ok.inj <| hqp.symm.trans <| hs' ▸ hpp
    refine ⟨hs, by rw [hqs, hps, hs'], fun text => ?_, by rw [hqd, hs, ← hpd]⟩
    rw [accepts, accepts, hprog]

theorem compile_display_pay :
    let raw := "pay {sum}"
    StepText.isExpression raw.toList = false ∧ (∀ s ∈ split raw.toList, ¬wildcard <:+: s) ∧
      ∃ p q, compile raw = .ok p ∧ compile p.display = .ok q ∧ '\n' ∉ "pay 5".toList ∧
        p.accepts "pay 5" = .ok true ∧ q.accepts "pay 5" = .ok true ∧ q.display = p.display := by
  intro raw
  have hr : StepText.isExpression raw.toList = false := by decide
  have hw : ∀ s ∈ split raw.toList, ¬wildcard <:+: s := by decide
  have hf : Fits (split raw.toList) "pay 5".toList := by
    have hs : split raw.toList = ["pay ".toList, []] := by decide
    rw [hs]
    exact ⟨"pay ".toList, ['5'], [], rfl, List.forall₂_same.mpr fun _ _ => .refl _, by decide, .nil⟩
  have ⟨p, q, hp, _, hq, ha, hs⟩ := compile_display raw hr
  have ⟨p', hp', _, _, _, hm⟩ := compile_of_template hr
  obtain rfl := Except.ok.inj <| hp.symm.trans hp'
  have ⟨b, hb, hbf⟩ := hm "pay 5"
  have hpa : p.accepts "pay 5" = .ok true := hb.trans <| congrArg _ <| hbf.mpr hf
  exact ⟨hr, hw, p, q, hp, hq, by decide, hpa, ha _ (by decide) hpa, (hs hw).2.2.2⟩

end StepPattern

end StepCatalog
