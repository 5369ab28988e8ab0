import Mathlib
import StepCatalog.Pattern

namespace StepCatalog.Regex

/-! ### Steps that are taken alike -/

-- Where the one succeeds, so does the other, and with a related result.
def Lifts (R : α → β → Prop) (x : Except Refusal α) (y : Except Refusal β) : Prop :=
  ∀ a, x = .ok a → ∃ b, y = .ok b ∧ R a b

namespace Lifts

variable {R : α → β → Prop} {S : γ → δ → Prop} {x : Except Refusal α} {y : Except Refusal β}

theorem error (e : Refusal) (y : Except Refusal β) : Lifts R (.error e) y := by
  rintro _ ⟨⟩

theorem ok (h : R a b) : Lifts R (.ok a) (.ok b) := by
  rintro _ ⟨⟩
  exact ⟨b, rfl, h⟩

theorem bind_of_ok {f : α → Except Refusal γ} {g : β → Except Refusal δ} (h : Lifts R x y)
    (hf : ∀ a b, x = .ok a → R a b → Lifts S (f a) (g b)) : Lifts S (x >>= f) (y >>= g) := by
  intro c hc
  cases x
  case error => contradiction
  case ok a =>
    have ⟨b, hb, hr⟩ := h a rfl
    have ⟨d, hd, hs⟩ := hf a b rfl hr c hc
    exact ⟨d, by rw [hb]; exact hd, hs⟩

theorem bind {f : α → Except Refusal γ} {g : β → Except Refusal δ} (h : Lifts R x y)
    (hf : ∀ a b, R a b → Lifts S (f a) (g b)) : Lifts S (x >>= f) (y >>= g) :=
  h.bind_of_ok fun a b _ => hf a b

theorem ite {c : Prop} [Decidable c] {x' : Except Refusal α} {y' : Except Refusal β}
    (h : c → Lifts R x y) (h' : ¬c → Lifts R x' y') :
    Lifts R (if c then x else x') (if c then y else y') := by
  split
  case isTrue hc => exact h hc
  case isFalse hc => exact h' hc

end Lifts

/-! ### Anchors around a pattern -/

-- Which anchors are put around a pattern.
structure Anchoring where
  front : Bool
  back : Bool

namespace Anchoring

-- What stands behind the pattern.
def tail (w : Anchoring) : List Token := if w.back then [.plain '$'] else []

-- By how much that moves the places in the pattern.
def offset (w : Anchoring) : Nat := Token.extent w.tail

end Anchoring

/-! ### Reading tokens -/

namespace Anchoring

variable {w : Anchoring} {ts : List Token}

theorem tail_cases (w : Anchoring) : w.tail = [] ∨ w.tail = [.plain '$'] := by
  unfold tail
  split
  case isTrue => exact .inr rfl
  case isFalse => exact .inl rfl

-- No reader asks for the anchor behind the pattern.
theorem append_ne_cons (hc : '$' ≠ c) (hn : ∀ us, ts = .plain c :: us → False) :
    ts ++ w.tail ≠ .plain c :: rest := by
  intro h
  cases ts
  case nil => obtain ht | ht := w.tail_cases <;> simp_all
  case cons t us => exact hn us <| by rw [(List.cons.inj h).left]

theorem extent_append (ts us : List Token) :
    Token.extent (ts ++ us) = Token.extent ts + Token.extent us := by
  induction ts
  case nil => exact (Nat.zero_add _).symm
  case cons t ts hi => simp only [List.cons_append, Token.extent, hi, Nat.add_assoc]

-- A place in the pattern, counted from its end.
theorem extent_add (ts : List Token) (n : Nat) :
    Token.extent (ts ++ w.tail) + n = Token.extent ts + n + w.offset := by
  rw [extent_append, offset]
  omega

-- The same is read, and what is left has the anchor behind it.
def RestsIn (w : Anchoring) (x y : α × List Token) : Prop :=
  y = (x.1, x.2 ++ w.tail)

theorem RestsIn.ok {a : α} : Lifts w.RestsIn (.ok (a, ts)) (.ok (a, ts ++ w.tail)) :=
  .ok rfl

theorem takePlain_append {p : Char → Bool} (hp : p '$' = false) (n : Nat) (ts : List Token) :
    Token.takePlain p n (ts ++ w.tail) =
      ((Token.takePlain p n ts).1, (Token.takePlain p n ts).2 ++ w.tail) := by
  induction ts generalizing n
  case nil => cases n <;> obtain h | h := w.tail_cases <;> simp [h, Token.takePlain, hp]
  case cons t ts hi =>
    cases n <;> cases t <;> simp only [List.cons_append, Token.takePlain]
    case succ.plain n c =>
      split
      case isTrue => simp only [hi]
      case isFalse => rfl

theorem takePlain_of_length_le {p : Char → Bool} (h : ts.length ≤ n) :
    Token.takePlain p n ts = Token.spanPlain p ts := by
  unfold Token.spanPlain
  induction ts generalizing n
  case nil => cases n <;> rfl
  case cons t ts hi =>
    cases n
    case zero => contradiction
    case succ n =>
      cases t <;> simp only [Token.takePlain, List.length_cons]
      case plain => rw [hi <| Nat.le_of_succ_le_succ h]

theorem spanPlain_append {p : Char → Bool} (hp : p '$' = false) (ts : List Token) :
    Token.spanPlain p (ts ++ w.tail) =
      ((Token.spanPlain p ts).1, (Token.spanPlain p ts).2 ++ w.tail) := by
  rw [Token.spanPlain, takePlain_append hp, takePlain_of_length_le (by simp)]

theorem readName_lifts (terminator : Char) (what : String) (ts : List Token) :
    Lifts w.RestsIn (readName terminator what ts) (readName terminator what (ts ++ w.tail)) := by
  unfold readName
  rw [List.dropWhile_append, List.takeWhile_append]
  cases hd : ts.dropWhile (· ≠ .plain terminator)
  case nil => exact .error _ _
  case cons t rest =>
    have hs := congrArg List.length <|
      @List.takeWhile_append_dropWhile _ (· ≠ .plain terminator) ts
    rw [hd, List.length_append, List.length_cons] at hs
    rw [if_neg (by omega)]
    exact .ite (fun _ => .error _ _) fun _ => RestsIn.ok

end Anchoring

/-! ### Escapes -/

namespace Escape

variable {w : Anchoring}

open Anchoring

theorem readHex_lifts (c : Char) (width : Nat) (ts : List Token) :
    Lifts w.RestsIn (readHex c width ts) (readHex c width (ts ++ w.tail)) := by
  simp only [readHex, takePlain_append (p := isHexDigit) (by decide)]
  exact .ite (fun _ => .error _ _) fun _ => .ite (fun _ => .error _ _) fun _ => RestsIn.ok

theorem readNamed_lifts (ts : List Token) :
    Lifts w.RestsIn (readNamed ts) (readNamed (ts ++ w.tail)) := by
  unfold readNamed
  split
  case h_2 => exact .error _ _
  case h_1 ts =>
    refine (readName_lifts '\x7d' "character name" ts).bind ?_
    rintro ⟨name, rest⟩ _ rfl
    dsimp only
    cases Unicode.ofName? name
    case none => exact .error _ _
    case some code => exact RestsIn.ok

theorem readOctal_lifts (c : Char) (ts : List Token) :
    Lifts w.RestsIn (readOctal c ts) (readOctal c (ts ++ w.tail)) := by
  simp only [readOctal, takePlain_append (p := isOctalDigit) (by decide)]
  exact .ite (fun _ => .error _ _) fun _ => RestsIn.ok

theorem readLiteral_lifts (c : Char) (ts : List Token) :
    Lifts w.RestsIn (readLiteral c ts) (readLiteral c (ts ++ w.tail)) :=
  .ite (fun _ => .error _ _) fun _ => RestsIn.ok

theorem readCode_lifts {other : Char → List Token → Except Refusal (Nat × List Token)}
    (c : Char) (ts : List Token) (ho : Lifts w.RestsIn (other c ts) (other c (ts ++ w.tail))) :
    Lifts w.RestsIn (readCode c ts other) (readCode c (ts ++ w.tail) other) := by
  unfold readCode
  cases hexWidth? c
  case some width => exact readHex_lifts c width ts
  case none => exact .ite (fun _ => readNamed_lifts ts) fun _ => ho

theorem readInSet_lifts (c : Char) (ts : List Token) :
    Lifts w.RestsIn (readInSet c ts) (readInSet c (ts ++ w.tail)) := by
  unfold readInSet
  cases controlCode? c
  case some => exact RestsIn.ok
  case none =>
    cases category? c
    case some => exact RestsIn.ok
    case none =>
      refine (readCode_lifts c ts ?_).bind ?_
      case refine_1 => exact .ite (fun _ => readOctal_lifts c ts) fun _ => readLiteral_lifts c ts
      case refine_2 =>
        rintro ⟨n, rest⟩ _ rfl
        exact RestsIn.ok

theorem readDigits_lifts (c : Char) (ts : List Token) :
    Lifts w.RestsIn (readDigits c ts) (readDigits c (ts ++ w.tail)) := by
  obtain _ | ⟨_ | _, ts⟩ := ts
  case nil => obtain h | h := w.tail_cases <;> rw [h] <;> exact .ok (by simp [RestsIn, h])
  case cons.escaped => exact RestsIn.ok
  case cons.plain d =>
    refine .ite (fun _ => ?_) fun _ => RestsIn.ok
    obtain _ | ⟨_ | _, ts⟩ := ts
    case nil =>
      have ho : isOctalDigit '$' = false := by decide
      obtain h | h := w.tail_cases <;> simp [h, ho] <;> exact .ok (by simp [RestsIn, h])
    case cons.escaped => exact RestsIn.ok
    case cons.plain e =>
      exact .ite (fun _ => .ite (fun _ => .error _ _) fun _ => RestsIn.ok) fun _ => RestsIn.ok

end Escape

/-! ### Sets and loops -/

namespace Reader

variable {w : Anchoring}

open Anchoring

theorem readMember_lifts (t : Token) (ts : List Token) :
    Lifts w.RestsIn (readMember t ts) (readMember t (ts ++ w.tail)) := by
  cases t
  case plain c => exact RestsIn.ok
  case escaped c => exact Escape.readInSet_lifts c ts

-- Whether a range can be read does not depend on what follows it.
theorem rangeOf_lifts (low high : SetItem) (lowToken highToken : Token) (ts us : List Token) :
    Lifts Eq (rangeOf low high lowToken highToken ts) (rangeOf low high lowToken highToken us) := by
  cases low <;> cases high <;> try exact .error _ _
  case code.code => exact .ite (fun _ => .error _ _) fun _ => .ok rfl

theorem readBounds?_append (ts : List Token) :
    readBounds? (ts ++ w.tail) =
      (readBounds? ts).map fun b => (b.1, b.2.1, b.2.2 ++ w.tail) := by
  have hh : (ts ++ w.tail).head? = some (.plain '\x7d') ↔ ts.head? = some (.plain '\x7d') := by
    cases ts
    case nil => obtain h | h := w.tail_cases <;> simp [h]
    case cons => rfl
  unfold readBounds?
  simp only [hh, spanPlain_append (p := Char.isDigit) (by decide)]
  split
  case isTrue => rfl
  case isFalse =>
    obtain ⟨low, _ | ⟨_ | _, rest⟩⟩ := Token.spanPlain Char.isDigit ts
    case nil => obtain h | h := w.tail_cases <;> simp [h]
    case cons.escaped => rfl
    case cons.plain c =>
      dsimp only [List.cons_append]
      split
      case h_1 => simp_all
      case h_2 he =>
        obtain ⟨⟨⟩, rfl⟩ := he
        simp only [spanPlain_append (p := Char.isDigit) (by decide)]
        obtain ⟨high, _ | ⟨_ | _, rest⟩⟩ := Token.spanPlain Char.isDigit rest
        case nil => obtain h | h := w.tail_cases <;> simp [h]
        case cons.escaped => rfl
        case cons.plain d =>
          dsimp only [List.cons_append]
          split
          case h_1 => simp_all
          case h_2 => split <;> simp_all
      case h_3 => split <;> simp_all

-- Whether bounds can be read does not depend on what follows them.
theorem readQuantifier_lifts (low high : List Char) (ts us : List Token) :
    Lifts Eq (readQuantifier low high ts) (readQuantifier low high us) := by
  have hr (x : Except Refusal Nat) : Lifts Eq x x := fun a h => ⟨a, h, rfl⟩
  have hk (least : Nat) :
      Lifts Eq
        (if high.isEmpty then .ok (least, none)
          else do
            let most ← readCount high
            if most < least then throw (.malformed .leastAboveMost (Token.extent ts))
            return (least, some most))
        (if high.isEmpty then .ok (least, none)
          else do
            let most ← readCount high
            if most < least then throw (.malformed .leastAboveMost (Token.extent us))
            return (least, some most)) := by
    refine .ite (fun _ => .ok rfl) fun _ => (hr _).bind ?_
    rintro most _ rfl
    exact .ite (fun _ => .error _ _) fun _ => .ok rfl
  refine .ite (fun _ => hk 0) fun _ => (hr _).bind ?_
  rintro least _ rfl
  exact hk least

theorem readGreed_append (ts : List Token) :
    readGreed (ts ++ w.tail) = ((readGreed ts).1, (readGreed ts).2 ++ w.tail) := by
  fun_cases readGreed ts
  case case1 => rfl
  case case2 => rfl
  case case3 hn hp =>
    unfold readGreed
    split
    case h_1 he => exact absurd he <| append_ne_cons (by decide) hn
    case h_2 he => exact absurd he <| append_ne_cons (by decide) hp
    case h_3 => rfl

/-! ### Flags -/

theorem readFlagsOn_lifts (on : List Flag) (ts : List Token) :
    Lifts (fun x y => y = (x.1, x.2.1, x.2.2 ++ w.tail)) (readFlagsOn on ts)
      (readFlagsOn on (ts ++ w.tail)) := by
  induction ts generalizing on
  case nil => exact .error _ _
  case cons t ts hi =>
    cases t
    case escaped => exact .error _ _
    case plain c =>
      simp only [List.cons_append, readFlagsOn]
      cases Flag.ofLetter? c
      case none => exact .ite (fun _ => .ok rfl) fun _ => .error _ _
      case some f =>
        exact .ite (fun _ => .error _ _) fun _ => .ite (fun _ => .error _ _) fun _ => hi _

theorem readFlagsOff_lifts (off : List Flag) (ts : List Token) :
    Lifts w.RestsIn (readFlagsOff off ts) (readFlagsOff off (ts ++ w.tail)) := by
  induction ts generalizing off
  case nil => exact .error _ _
  case cons t ts hi =>
    cases t
    case escaped => exact .error _ _
    case plain c =>
      simp only [List.cons_append, readFlagsOff]
      cases Flag.ofLetter? c
      case none => exact .ite (fun _ => RestsIn.ok) fun _ => .error _ _
      case some f => exact .ite (fun _ => .error _ _) fun _ => hi _

end Reader

end StepCatalog.Regex
