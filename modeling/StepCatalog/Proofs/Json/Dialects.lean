import Mathlib
import StepCatalog.Extract
import StepCatalog.Proofs.Json.Encoding
import StepCatalog.Proofs.Json.Words
import StepCatalog.Proofs.Outcome
import StepCatalog.Settings

namespace StepCatalog.Json

/-! ### Tokens -/

-- Pairs of surrogates are joined alike, and the strict dialect takes no single ones.
theorem joinUnits_lenient [Runtime] (h : joinUnits .strict us = some s) :
    joinUnits .lenient us = some s := by
  have hn : Dialect.strict.loneSurrogate = none := rfl
  induction us using joinUnits.induct generalizing s
  case case1 => exact h
  case case2 u hu =>
    rw [joinUnits, if_pos hu, hn] at h
    contradiction
  case case3 u hu =>
    rw [joinUnits, if_neg hu] at h ⊢
    exact h
  case case4 u v rest hu hv hi =>
    rw [joinUnits, if_pos hu, if_pos hv] at h ⊢
    have ⟨t, ht, he⟩ := Option.map_eq_some_iff.mp h
    rw [hi ht, ← he]
    rfl
  case case5 u v rest hu hv _ =>
    rw [joinUnits, if_pos hu, if_neg hv, hn] at h
    contradiction
  case case6 u v rest hu hl _ =>
    rw [joinUnits, if_neg hu, if_pos hl, hn] at h
    contradiction
  case case7 u v rest hu hl hi =>
    rw [joinUnits, if_neg hu, if_neg hl] at h ⊢
    have ⟨t, ht, he⟩ := Option.map_eq_some_iff.mp h
    rw [hi ht, ← he]
    rfl

namespace Lexer

-- What the lexer puts in front of the tokens that it has. The only values among it are those of
-- words.
inductive Adds (d : Dialect) (ts : List Token) : List Token → Prop
  | nothing : Adds d ts ts
  | word (h : Adds d ts ts') (hv : scalar? d w = some v) : Adds d ts (.scalar v :: ts')
  | other (h : Adds d ts ts') (ht : ∀ v, t ≠ .scalar v) : Adds d ts (t :: ts')

namespace Adds

variable {d : Dialect} {ts ts' ts'' : List Token}

theorem trans (h : Adds d ts ts') (h' : Adds d ts' ts'') : Adds d ts ts'' := by
  induction h'
  case nothing => exact h
  case word hv hi => exact .word hi hv
  case other ht hi => exact .other hi ht

theorem mem (h : Adds d ts ts') (ht : t ∈ ts) : t ∈ ts' := by
  induction h
  case nothing => exact ht
  case word hi => exact List.mem_cons_of_mem _ hi
  case other hi => exact List.mem_cons_of_mem _ hi

theorem exists_word (h : Adds d ts ts') (hv : .scalar v ∈ ts') :
    .scalar v ∈ ts ∨ ∃ w, scalar? d w = some v := by
  induction h
  case nothing => exact .inl hv
  case word hw hi =>
    rcases List.mem_cons.mp hv with he | hv
    case inl => exact .inr ⟨_, Token.scalar.inj he ▸ hw⟩
    case inr => exact hi hv
  case other ht hi => exact hi <| (List.mem_cons.mp hv).resolve_left fun he => ht v he.symm

end Adds

theorem start_adds (d : Dialect) (ts : List Token) (c : Char) : Adds d ts (start ts c).tokens := by
  unfold start
  split
  case isTrue => exact .nothing
  case isFalse =>
    split
    case isTrue => exact .nothing
    case isFalse =>
      split
      case h_2 => exact .nothing
      case h_1 t ht =>
        refine .other .nothing ?_
        rintro v rfl
        unfold punctuation? at ht
        split at ht <;> simp at ht

theorem step_adds {d : Dialect} {l l' : Lexer} (h : l.step d c = some l') :
    Adds d l.tokens l'.tokens := by
  unfold step at h
  split at h
  case h_1 => cases h; exact start_adds d _ c
  case h_2 =>
    split at h
    case isFalse => cases h; exact .nothing
    case isTrue =>
      have ⟨v, hv, he⟩ := Option.map_eq_some_iff.mp h
      exact he ▸ (Adds.word .nothing hv).trans (start_adds d _ c)
  case h_3 =>
    split_ifs at h
    case pos =>
      have ⟨s, _, he⟩ := Option.map_eq_some_iff.mp h
      exact he ▸ .other .nothing (by nofun)
    all_goals cases h; exact .nothing
  case h_4 =>
    split at h
    case isTrue => cases h; exact .nothing
    case isFalse =>
      have ⟨e, _, he⟩ := Option.map_eq_some_iff.mp h
      exact he ▸ .nothing
  case h_5 =>
    have ⟨v, _, he⟩ := Option.map_eq_some_iff.mp h
    rw [← he]
    dsimp only
    split <;> exact .nothing

theorem finish_adds (d : Dialect) (l : Lexer) : Adds d l.tokens (l.finish d) := by
  unfold finish
  split
  case h_1 => exact .nothing
  case h_3 => exact .other .nothing (by nofun)
  case h_2 chars _ =>
    cases hv : scalar? d chars.reverse
    case none => exact .other .nothing (by nofun)
    case some => exact .word .nothing hv

theorem run_adds (d : Dialect) (l : Lexer) (s : List Char) : Adds d l.tokens (run d l s) := by
  induction s generalizing l <;> simp only [run]
  case nil => exact finish_adds d l
  case cons c s hi =>
    split
    case h_1 => exact .other .nothing (by nofun)
    case h_2 l' hs => exact (step_adds hs).trans (hi l')

section

variable [Runtime]

-- A step that the strict dialect takes is taken by the lenient one too, to the same place unless an
-- integer has been read that the strict dialect does not hold.
theorem step_lenient (h : step .strict l c = some l') :
    (∃ l'' n, step .lenient l c = some l'' ∧ .scalar (.int n) ∈ l''.tokens ∧
      ¬Dialect.strict.holds n) ∨ step .lenient l c = some l' := by
  unfold step at h ⊢
  cases hm : l.mode <;> simp only [hm] at h ⊢
  case word chars =>
    split at h
    case isFalse hc => exact .inr <| by rwa [if_neg hc]
    case isTrue hc =>
      have ⟨v, hv, he⟩ := Option.map_eq_some_iff.mp h
      rw [if_pos hc]
      rcases scalar?_lenient hv with ⟨n, hn, ho⟩ | hv
      case inl =>
        exact .inl ⟨_, n, by rw [hn]; rfl, (start_adds .lenient _ c).mem List.mem_cons_self, ho⟩
      case inr => exact .inr <| by rw [hv, Option.map_some, he]
  case text units =>
    split at h
    case isFalse hc => exact .inr <| by rwa [if_neg hc]
    case isTrue hc =>
      have ⟨s, hs, he⟩ := Option.map_eq_some_iff.mp h
      exact .inr <| by rw [if_pos hc, joinUnits_lenient hs, Option.map_some, he]
  all_goals exact .inr h

theorem finish_lenient (h : .invalid ∉ finish .strict l)
    (hn : ∀ n, .scalar (.int n) ∈ finish .lenient l → Dialect.strict.holds n) :
    finish .lenient l = finish .strict l := by
  unfold finish at h hn ⊢
  cases hm : l.mode <;> simp only [hm] at h hn ⊢
  case word chars =>
    cases hv : scalar? .strict chars.reverse
    case none => simp [hv] at h
    case some v =>
      rcases scalar?_lenient hv with ⟨n, hl, ho⟩ | hl
      case inl => exact absurd (hn n <| by simp [hl]) ho
      case inr => rw [hl]

theorem run_lenient (h : .invalid ∉ run .strict l s)
    (hn : ∀ n, .scalar (.int n) ∈ run .lenient l s → Dialect.strict.holds n) :
    run .lenient l s = run .strict l s := by
  induction s generalizing l <;> simp only [run] at h hn ⊢
  case nil => exact finish_lenient h hn
  case cons c s hi =>
    cases hs : step .strict l c <;> simp only [hs] at h
    case none => simp at h
    case some l' =>
      rcases step_lenient hs with ⟨l'', n, hl, hm, ho⟩ | hl
      case inl => exact absurd (hn n <| by simpa only [hl] using (run_adds _ _ s).mem hm) ho
      case inr =>
        simp only [hl] at hn ⊢
        exact hi h hn

end

end Lexer

theorem tokens_lenient [Runtime] (h : .invalid ∉ tokens .strict s)
    (hn : ∀ n, .scalar (.int n) ∈ tokens .lenient s → Dialect.strict.holds n) :
    tokens .lenient s = tokens .strict s := by
  rw [tokens, List.mem_reverse] at h
  simp only [tokens, List.mem_reverse] at hn ⊢
  rw [Lexer.run_lenient h hn]

/-! ### Nesting -/

namespace Token

def opens : Token → Bool
  | listStart | objectStart => true
  | _ => false

-- How many lists and objects a place is inside of, given how many the place before the token is.
def level (before : Nat) : Token → Nat
  | listStart | objectStart => before + 1
  | listEnd | objectEnd => before - 1
  | _ => before

end Token

-- How deep lists and objects are nested at most, where the first token is inside so many of them.
def nesting (level : Nat) : List Token → Nat
  | [] => level
  | t :: ts => max level (nesting (t.level level) ts)

theorem level_le_nesting (level : Nat) (ts : List Token) : level ≤ nesting level ts := by
  cases ts
  case nil => exact Nat.le_refl _
  case cons => exact Nat.le_max_left ..

namespace Reader

variable {stack : List Open}

theorem complete_stack_length (v : Json) (stack : List Open) :
    (complete v stack).stack.length = stack.length := by
  cases stack
  case nil => rfl
  case cons o stack => cases o <;> rfl

theorem openNew_stack_length (h : openNew d stack c = .ok r) :
    r.stack.length = stack.length + 1 := by
  unfold openNew at h
  split at h
  case isTrue => contradiction
  case isFalse => cases c <;> cases h <;> rfl

theorem readValue_stack_length (h : readValue d stack t = .ok r) :
    r.stack.length = t.level stack.length := by
  cases t <;> simp only [readValue, reduceCtorEq] at h
  case listStart | objectStart => exact openNew_stack_length h
  case text | scalar => cases h; exact complete_stack_length ..

theorem readKey_stack_length (h : readKey stack t = .ok r) :
    r.stack.length = t.level stack.length := by
  unfold readKey at h
  split at h
  case h_1 => cases h; rfl
  case h_2 => contradiction

theorem close_stack_length (h : close stack t = .ok r) :
    r.stack.length = t.level stack.length := by
  unfold close at h
  split at h
  case h_3 => contradiction
  all_goals cases h; exact complete_stack_length ..

theorem next_stack_length (h : next stack = .ok r) : r.stack.length = stack.length := by
  unfold next at h
  split at h
  case h_3 => contradiction
  all_goals cases h; rfl

theorem step_stack_length {r : Reader} (h : r.step d t = .ok r') :
    r'.stack.length = t.level r.stack.length := by
  unfold step at h
  split at h
  case h_1 | h_9 => contradiction
  case h_2 | h_4 => exact readValue_stack_length h
  case h_3 | h_5 | h_11 => exact close_stack_length h
  case h_6 | h_7 => exact readKey_stack_length h
  case h_8 => cases h; rfl
  case h_10 => exact next_stack_length h

theorem step_of_opens {r : Reader} (ho : t.opens) (h : r.step d t = .ok r') :
    ∃ c, ∀ d', r.step d' t = openNew d' r.stack c := by
  cases t <;> simp only [Token.opens, Bool.false_eq_true] at ho
  case' listStart => refine ⟨.list, fun d' => ?_⟩
  case' objectStart => refine ⟨.object, fun d' => ?_⟩
  all_goals
    unfold step at h ⊢
    cases he : r.expecting <;> simp only [he] at h ⊢
    case value | firstItem => rfl
    all_goals simp [readKey, close] at h

-- The dialects differ in how deep they go, and in nothing else that the reader looks at.
theorem step_of_not_opens (ho : t.opens = false) (r : Reader) (d d' : Dialect) :
    r.step d t = r.step d' t := by
  have hv : readValue d r.stack t = readValue d' r.stack t := by
    cases t <;> simp only [Token.opens, Bool.true_eq_false] at ho <;> rfl
  unfold step
  split
  case h_2 | h_4 => exact hv
  all_goals rfl

theorem step_invalid (d : Dialect) (r : Reader) : ∃ e, r.step d .invalid = .error e := by
  unfold step
  cases r.expecting <;> exact ⟨_, by simp [readValue, readKey, close]; rfl⟩

theorem invalid_notMem (h : run d r ts = .ok r') : .invalid ∉ ts := by
  induction ts generalizing r <;> simp only [run] at h
  case nil => exact List.not_mem_nil
  case cons t ts hi =>
    cases hs : r.step d t <;> simp only [hs, reduceCtorEq] at h
    case ok q =>
      rintro (_ | hm)
      case head =>
        have ⟨e, he⟩ := step_invalid d r
        exact nomatch he.symm.trans hs
      case tail hm => exact hi h hm

variable [Runtime]

-- What the lenient dialect makes of a step of the strict one: it has come too deep, or takes it
-- too.
def Follows (stack : List Open) (r : Reader) (lenient : Reading Reader) : Prop :=
  (r.stack.length ≤ max stack.length Dialect.lenient.maxDepth → lenient = .ok r) ∧
  (max stack.length Dialect.lenient.maxDepth < r.stack.length →
    ∃ c, lenient = .error (.tooDeep c))

theorem openNew_lenient (h : openNew .strict stack c = .ok r) :
    Follows stack r (openNew .lenient stack c) := by
  have hl := openNew_stack_length h
  unfold openNew at h ⊢
  split at h
  case isTrue => contradiction
  case isFalse =>
    constructor
    case left =>
      intro hd
      rwa [if_neg (by omega)]
    case right =>
      intro hd
      exact ⟨c, by rw [if_pos (by omega)]; rfl⟩

theorem step_lenient {r : Reader} (h : r.step .strict t = .ok r') :
    Follows r.stack r' (r.step .lenient t) := by
  cases ho : t.opens
  case true =>
    have ⟨c, hc⟩ := step_of_opens ho h
    rw [hc] at h ⊢
    exact openNew_lenient h
  case false =>
    have hl : r'.stack.length ≤ r.stack.length := by
      rw [step_stack_length h]
      cases t <;> simp_all [Token.opens, Token.level]
    rw [step_of_not_opens ho r .lenient .strict, h]
    exact ⟨fun _ => rfl, fun hd => absurd hd <| by omega⟩

theorem run_lenient {r : Reader} (h : run .strict r ts = .ok r')
    (hd : r.stack.length ≤ Dialect.lenient.maxDepth) :
    (nesting r.stack.length ts ≤ Dialect.lenient.maxDepth → run .lenient r ts = .ok r') ∧
    (Dialect.lenient.maxDepth < nesting r.stack.length ts →
      ∃ c, run .lenient r ts = .error (.tooDeep c)) := by
  induction ts generalizing r <;> simp only [run, nesting] at h ⊢
  case nil => exact ⟨fun _ => h, fun hn => absurd hn <| by omega⟩
  case cons t ts hi =>
    cases hs : r.step .strict t <;> simp only [hs, reduceCtorEq] at h
    case ok q =>
      have ⟨hf, hf'⟩ := step_lenient hs
      rw [Nat.max_eq_right hd] at hf hf'
      have hl := level_le_nesting q.stack.length ts
      rw [← step_stack_length hs]
      by_cases hq : q.stack.length ≤ Dialect.lenient.maxDepth
      case pos =>
        have ⟨hr, hr'⟩ := hi h hq
        rw [hf hq]
        exact ⟨fun hn => hr <| by omega, fun hn => hr' <| by omega⟩
      case neg =>
        have ⟨c, hc⟩ := hf' <| by omega
        rw [hc]
        exact ⟨fun hn => absurd hn <| by omega, fun _ => ⟨c, rfl⟩⟩

end Reader

/-! ### Null characters -/

namespace Lexer

theorem invalid_mem_of_word {d : Dialect} {chars : List Char} (hc : c ∈ chars)
    (hn : ¬IsWordChar c) (ts : List Token) (s : List Char) :
    .invalid ∈ run d ⟨.word chars, ts⟩ s := by
  have hv (chars : List Char) (hc : c ∈ chars) : scalar? d chars.reverse = none := by
    by_contra h
    have ⟨v, hv⟩ := Option.ne_none_iff_exists'.mp h
    exact hn <| isWordChar_of_scalar? hv c <| List.mem_reverse.mpr hc
  induction s generalizing chars <;> simp only [run]
  case nil => simp [finish, hv chars hc]
  case cons e s hi =>
    simp only [step]
    split
    case h_1 => exact List.mem_cons_self
    case h_2 l hl =>
      split at hl
      case isTrue => simp [hv chars hc] at hl
      case isFalse =>
        cases hl
        exact hi <| List.mem_cons_of_mem _ hc

theorem start_of_not_isWordChar (hn : ¬IsWordChar c) (ts : List Token) :
    start ts c = ⟨.word [c], ts⟩ := by
  have hs (e : Char) (he : IsWordChar e) : c ≠ e := fun hc => hn (hc ▸ he)
  have hb : isSpace c = false := by
    simp [isSpace, hs ' ' (by decide), hs '\t' (by decide), hs '\n' (by decide),
      hs '\r' (by decide)]
  have hp : punctuation? c = none := by
    unfold punctuation?
    split
    case h_7 => rfl
    all_goals exact absurd rfl <| hs _ <| by decide
  simp [start, hb, hp, hs '"' (by decide)]

-- A null character can be part of nothing.
theorem invalid_mem_of_null {d : Dialect} (h : '\x00' ∈ s) (l : Lexer) : .invalid ∈ run d l s := by
  have hn : ¬IsWordChar '\x00' := by decide
  induction s generalizing l
  case nil => contradiction
  case cons c s hi =>
    rw [run]
    cases h
    case tail h =>
      split
      case h_1 => exact List.mem_cons_self
      case h_2 l' _ => exact hi h l'
    case head =>
      rw [step]
      cases hm : l.mode
      case between =>
        rw [start_of_not_isWordChar hn]
        exact invalid_mem_of_word List.mem_cons_self hn ..
      case word chars => exact invalid_mem_of_word List.mem_cons_self hn ..
      all_goals exact List.mem_cons_self

end Lexer

theorem null_notMem (h : parse d s = .ok v) : '\x00' ∉ s := by
  intro hm
  have ⟨r, hr, _⟩ := bind_eq_ok_iff.mp h
  exact Reader.invalid_notMem hr <| List.mem_reverse.mpr <| Lexer.invalid_mem_of_null hm {}

theorem head_lt (h : parse d s = .ok v) : ∀ c ∈ s.head?, c.toNat < 0x80 := by
  intro c hc
  have ⟨r, hr, _⟩ := bind_eq_ok_iff.mp h
  by_contra hl
  have hn : ¬IsWordChar c := fun hw => hl hw.right
  have ⟨s, hs⟩ := List.head?_eq_some_iff.mp hc
  apply Reader.invalid_notMem hr
  rw [hs, tokens, List.mem_reverse, Lexer.run, Lexer.step, Lexer.start_of_not_isWordChar hn]
  exact Lexer.invalid_mem_of_word List.mem_cons_self hn ..

/-! ### Documents -/

-- What a dialect reads where half of a surrogate pair is no character.
def Dialect.whole (d : Dialect) : Dialect := { d with loneSurrogate := none }

variable [Runtime]

-- The integers of a text are in the range of the strict dialect. The lenient dialect reads all
-- integers as such, and so tells them from other numbers.
def HoldsIntegers (s : List Char) : Prop :=
  ∀ n, .scalar (.int n) ∈ tokens .lenient s → Dialect.strict.holds n

-- No list or object of a text is one too many for the lenient dialect.
def IsShallow (s : List Char) : Prop :=
  nesting 0 (tokens .strict s) ≤ Dialect.lenient.maxDepth

theorem parse_lenient (h : parse .strict s = .ok v) (hn : HoldsIntegers s) :
    (IsShallow s → parse .lenient s = .ok v) ∧
    (¬IsShallow s → ∃ c, parse .lenient s = .error (.tooDeep c)) := by
  have ⟨r, hr, hv⟩ := bind_eq_ok_iff.mp h
  have ht := tokens_lenient (Reader.invalid_notMem hr) hn
  have ⟨hs, hd⟩ := Reader.run_lenient hr (Nat.zero_le _)
  simp only [parse, ht, IsShallow, Nat.not_le]
  constructor
  case left =>
    intro h
    rw [hs h]
    exact hv
  case right =>
    intro h
    have ⟨c, hc⟩ := hd h
    exact ⟨c, by rw [hc]; rfl⟩

-- A document that the strict dialect reads is taken by the lenient one for the same text.
theorem decodeText?_lenient (h : decode .strict bytes = .ok v) :
    ∃ s, parse .strict s = .ok v ∧ decodeText? .strict bytes = some s ∧
      decodeText? .lenient bytes = some s := by
  unfold decode at h
  split at h
  case h_2 => contradiction
  case h_1 s hs =>
    have ⟨t, ht, he⟩ := Option.map_eq_some_iff.mp hs
    rw [← toUTF8_of_fromUTF8? ht]
    rw [← he] at h
    exact ⟨_, h, decodeText?_toUTF8 _ (null_notMem h) (head_lt h),
      decodeText?_toUTF8 _ (null_notMem h) (head_lt h)⟩

-- The text of a document has only integers that the strict dialect holds.
def HoldsIntegersOf (bytes : ByteArray) : Prop :=
  ∀ s ∈ decodeText? .strict bytes, HoldsIntegers s

def IsShallowOf (bytes : ByteArray) : Prop :=
  ∀ s ∈ decodeText? .strict bytes, IsShallow s

theorem decode_lenient (h : decode .strict bytes = .ok v) (hn : HoldsIntegersOf bytes) :
    (IsShallowOf bytes → decode .lenient bytes = .ok v) ∧
    (¬IsShallowOf bytes → ∃ c, decode .lenient bytes = .error (.tooDeep c)) := by
  have ⟨s, hp, hs, hl⟩ := decodeText?_lenient h
  have hn : HoldsIntegers s := hn s hs
  simpa [decode, hl, IsShallowOf, hs] using parse_lenient hp hn

end StepCatalog.Json
