import Mathlib
import StepCatalog.Json.Reader
import StepCatalog.Json.Writer
import StepCatalog.Proofs.Json.Words

namespace StepCatalog.Json

/-! ### Numerals of integers -/

theorem head?_toDigits (hn : 0 < n) : (Nat.toDigits 10 n).head? ≠ some '0' := by
  induction n using Nat.strongRecOn
  case ind n hi =>
    by_cases hl : n < 10
    case pos =>
      have hd : ∀ n < 10, 0 < n → Nat.digitChar n ≠ '0' := by decide
      simpa [Nat.toDigits_of_lt_base hl] using hd n hl hn
    case neg =>
      have hz : (Nat.toDigits 10 (n / 10)).head? ≠ some '0' := hi _ (by omega) (by omega)
      rwa [Nat.toDigits_of_base_le (by decide) (by omega),
        List.head?_append_of_ne_nil _ Nat.toDigits_ne_nil]

theorem isDigit_toDigits (n : Nat) : ∀ c ∈ Nat.toDigits 10 n, c.isDigit :=
  fun _ hc => Nat.isDigit_of_mem_toDigits (by decide) (by decide) hc

namespace Numeral

theorem isWhole_toDigits (n : Nat) : isWhole (Nat.toDigits 10 n) := by
  cases n
  case zero => decide
  case succ n =>
    have := head?_toDigits (Nat.succ_pos n)
    simp [isWhole, this]

theorem read?_digits {s : List Char} (hd : ∀ c ∈ s, c.isDigit) (hw : isWhole s) :
    read? s = some ⟨false, s, none, none⟩ ∧ read? ('-' :: s) = some ⟨true, s, none, none⟩ := by
  have ht : s.takeWhile Char.isDigit = s := List.takeWhile_eq_self_iff.mpr hd
  have hr : s.dropWhile Char.isDigit = [] := List.dropWhile_eq_nil_iff.mpr hd
  have hs : splitSign s = (false, s) := by
    unfold splitSign
    split
    case h_1 => simp at hd
    case h_2 => rfl
  have hm : splitSign ('-' :: s) = (true, s) := rfl
  constructor <;> simp [read?, hs, hm, ht, hr, hw, readExponent?]

end Numeral

theorem toList_toString (n : Int) : (toString n).toList =
    if n < 0 then '-' :: Nat.toDigits 10 n.natAbs else Nat.toDigits 10 n.natAbs := by
  rw [Int.toString_eq_repr, Int.repr_eq_if]
  split
  case isTrue h =>
    have hn : n.toNat = n.natAbs := by omega
    rw [if_neg (by omega), Nat.toList_repr, hn]
  case isFalse h =>
    have hn : (-n).toNat = n.natAbs := by omega
    rw [if_pos (by omega), String.toList_append, Nat.toList_repr, hn]
    rfl

theorem read?_toString (n : Int) : Numeral.read? (toString n).toList =
    some ⟨n < 0, Nat.toDigits 10 n.natAbs, none, none⟩ := by
  have ⟨hp, hm⟩ := Numeral.read?_digits (isDigit_toDigits n.natAbs) (Numeral.isWhole_toDigits _)
  rw [toList_toString]
  split
  case isTrue h => rw [hm, decide_eq_true h]
  case isFalse h => rw [hp, decide_eq_false h]

theorem isDigit_toString {n : Int} (hc : c ∈ (toString n).toList) : c = '-' ∨ c.isDigit := by
  rw [toList_toString] at hc
  split at hc
  case isTrue => exact (List.mem_cons.mp hc).imp_right <| isDigit_toDigits _ c
  case isFalse => exact .inr <| isDigit_toDigits _ c hc

theorem toString_notMem_names (n : Int) : (toString n).toList ∉ names := by
  have hl : ∀ w ∈ names, ∃ c ∈ w, ¬(c = '-' ∨ c.isDigit) := by simp [names]
  intro h
  obtain ⟨c, hc, hd⟩ := hl _ h
  exact hd <| isDigit_toString hc

-- The integers of the strict dialect have few digits.
theorem natAbs_lt (h : Dialect.strict.holds n) : n.natAbs < 10 ^ Text.maxDigits := by
  have hb : n.natAbs < 10 ^ 20 := by
    simp only [Dialect.holds, Dialect.strict, Option.all_some, Bool.and_eq_true,
      decide_eq_true_eq] at h
    norm_num at h ⊢
    omega
  exact Nat.lt_of_lt_of_le hb <| Nat.pow_le_pow_right (by decide) (by decide)

theorem scalar?_toString {d : Dialect} (hn : d.holds n) (hl : n.natAbs < 10 ^ Text.maxDigits) :
    scalar? d (toString n).toList = some (.int n) := by
  have hv : (if n < 0 then -(Numeral.digits (Nat.toDigits 10 n.natAbs) : Int) else
      Numeral.digits (Nat.toDigits 10 n.natAbs)) = n := by
    have : Numeral.digits (Nat.toDigits 10 n.natAbs) = n.natAbs := Nat.ofDigitChars_ten_toDigits
    rw [this]
    split <;> omega
  have hd : (Nat.toDigits 10 n.natAbs).length ≤ Text.maxDigits :=
    (Nat.length_toDigits_le_iff (by decide) (by decide)).mpr hl
  rw [scalar?_of_notMem (toString_notMem_names n), read?_toString]
  simp [Numeral.toJson?, hv, hn, hd]

/-! ### Texts -/

-- The code units that a character is read as after it has been written.
def writtenUnits (d : Dialect) (c : Char) : List Nat :=
  if d.asciiOnly ∧ 0x10000 ≤ c.toNat then
    [0xd800 + (c.toNat - 0x10000) / 0x400, 0xdc00 + (c.toNat - 0x10000) % 0x400]
  else [c.toNat]

theorem toNat_valid (c : Char) : c.toNat < 0xd800 ∨ 0xdfff < c.toNat ∧ c.toNat < 0x110000 :=
  c.valid

theorem not_isSurrogate (c : Char) :
    isHighSurrogate c.toNat = false ∧ isLowSurrogate c.toNat = false := by
  have := toNat_valid c
  simp only [isHighSurrogate, isLowSurrogate, Bool.and_eq_false_iff, decide_eq_false_iff_not]
  omega

theorem joinUnits_cons (d : Dialect) (c : Char) (us : List Nat) :
    joinUnits d (c.toNat :: us) = (joinUnits d us).map (c :: ·) := by
  have ⟨hh, hl⟩ := not_isSurrogate c
  cases us <;> simp [joinUnits, hh, hl, Char.ofNat_toNat]

theorem joinUnits_pair (d : Dialect) (hc : 0x10000 ≤ c.toNat) (us : List Nat) :
    joinUnits d ((0xd800 + (c.toNat - 0x10000) / 0x400) ::
      (0xdc00 + (c.toNat - 0x10000) % 0x400) :: us) = (joinUnits d us).map (c :: ·) := by
  have := toNat_valid c
  have hh : isHighSurrogate (0xd800 + (c.toNat - 0x10000) / 0x400) := by
    simp only [isHighSurrogate, Bool.and_eq_true, decide_eq_true_eq]
    omega
  have hl : isLowSurrogate (0xdc00 + (c.toNat - 0x10000) % 0x400) := by
    simp only [isLowSurrogate, Bool.and_eq_true, decide_eq_true_eq]
    omega
  have hn : 0x10000 + (0xd800 + (c.toNat - 0x10000) / 0x400 - 0xd800) * 0x400 +
      (0xdc00 + (c.toNat - 0x10000) % 0x400 - 0xdc00) = c.toNat := by
    omega
  rw [joinUnits, if_pos hh, if_pos hl, hn, Char.ofNat_toNat]

-- Whichever way characters are written, every dialect reads them.
theorem joinUnits_writtenUnits (d d' : Dialect) (s : List Char) :
    joinUnits d' (s.flatMap (writtenUnits d)) = some s := by
  induction s
  case nil => rfl
  case cons c s hi =>
    have hj (us : List Nat) :
        joinUnits d' (writtenUnits d c ++ us) = (joinUnits d' us).map (c :: ·) := by
      unfold writtenUnits
      split
      case isTrue h => exact joinUnits_pair d' h.right us
      case isFalse => exact joinUnits_cons d' c us
    rw [List.flatMap_cons, hj, hi]
    rfl

namespace Lexer

theorem hexValue?_digitChar : ∀ n < 16, hexValue? (Nat.digitChar n) = some n := by
  decide

theorem hexValue?_digitChar_mod (n : Nat) : hexValue? (Nat.digitChar (n % 16)) = some (n % 16) :=
  hexValue?_digitChar _ <| Nat.mod_lt _ (by decide)

theorem run_writeUnit (d : Dialect) (hu : u < 0x10000) :
    run d ⟨.text units, acc⟩ (writeUnit u ++ rest) = run d ⟨.text (u :: units), acc⟩ rest := by
  have hn : 16 * (16 * (16 * (u / 16 / 16 / 16 % 16) + u / 16 / 16 % 16) + u / 16 % 16) + u % 16 =
      u := by
    omega
  simp [writeUnit, Text.hexDigits, run, step, hexValue?_digitChar_mod, hn]

theorem run_writeChar (d d' : Dialect) (c : Char) :
    run d' ⟨.text units, acc⟩ (writeChar d c ++ rest) =
      run d' ⟨.text ((writtenUnits d c).reverse ++ units), acc⟩ rest := by
  have hs (hc : c.toNat < 0x10000) : writtenUnits d c = [c.toNat] := if_neg (by omega)
  unfold writeChar
  split
  case isTrue h =>
    rw [hs (by rcases h with rfl | rfl <;> decide)]
    rcases h with rfl | rfl <;> rfl
  case isFalse hq =>
    split_ifs
    case pos h | pos h | pos h | pos h | pos h =>
      subst h
      rw [hs (by decide)]
      rfl
    case pos h =>
      unfold writeUnits
      split
      case isTrue hc => rw [hs hc, run_writeUnit d' hc]; rfl
      case isFalse hc =>
        have := toNat_valid c
        rw [List.append_assoc, run_writeUnit d' (by omega), run_writeUnit d' (by omega),
          writtenUnits, if_pos ⟨(h.resolve_left (by omega)).left, by omega⟩]
        rfl
    case neg h =>
      have hp : ¬(d.asciiOnly ∧ 0x10000 ≤ c.toNat) := fun hc => h <| .inr ⟨hc.left, by omega⟩
      have hc : ¬c.toNat < 0x20 := fun hc => h <| .inl hc
      rw [writtenUnits, if_neg hp, List.singleton_append, run, step]
      simp only [not_or] at hq
      simp only [hq.left, hq.right, hc, if_false]
      rfl

theorem run_writeTextChars (d d' : Dialect) (s : List Char) :
    run d' ⟨.text units, acc⟩ (s.flatMap (writeChar d) ++ rest) =
      run d' ⟨.text ((s.flatMap (writtenUnits d)).reverse ++ units), acc⟩ rest := by
  induction s generalizing units
  case nil => rfl
  case cons c s hi =>
    rw [List.flatMap_cons, List.append_assoc, run_writeChar, hi, List.flatMap_cons,
      List.reverse_append, List.append_assoc]

theorem run_writeText (d d' : Dialect) (s : String) :
    run d' ⟨.between, acc⟩ (writeText d s ++ rest) = run d' ⟨.between, .text s :: acc⟩ rest := by
  have hj : joinUnits d' (s.toList.flatMap (writtenUnits d)) = some s.toList :=
    joinUnits_writtenUnits ..
  have ho (rest : List Char) : run d' ⟨.between, acc⟩ ('"' :: rest) = run d' ⟨.text [], acc⟩ rest :=
    rfl
  have hc (units : List Nat) : run d' ⟨.text units, acc⟩ ('"' :: rest) =
      match joinUnits d' units.reverse with
      | none => .invalid :: acc
      | some s => run d' ⟨.between, .text (String.ofList s) :: acc⟩ rest := by
    cases hu : joinUnits d' units.reverse <;> simp [run, step, hu]
  simp only [writeText, List.cons_append, List.append_assoc, ho, run_writeTextChars,
    List.nil_append, hc, List.append_nil, List.reverse_reverse, hj, String.ofList_toList]

/-! ### Words and marks -/

-- What stands here, if anything does, ends a word before it.
def EndsWord (rest : List Char) : Prop := ∀ c ∈ rest.head?, endsWord c

theorem run_word_append (d : Dialect) (hw : ∀ c ∈ w, endsWord c = false) :
    run d ⟨.word chars, acc⟩ (w ++ rest) = run d ⟨.word (w.reverse ++ chars), acc⟩ rest := by
  induction w generalizing chars
  case nil => rfl
  case cons c w hi =>
    have ⟨hc, hw⟩ := List.forall_mem_cons.mp hw
    rw [List.cons_append, run, step, hc]
    simp [hi hw]

theorem start_of_not_endsWord (hc : endsWord c = false) : start acc c = ⟨.word [c], acc⟩ := by
  simp only [endsWord, Bool.or_eq_false_iff, beq_eq_false_iff_ne, Option.isSome_eq_false_iff,
    Option.isNone_iff_eq_none] at hc
  simp [start, hc.left.left, hc.left.right, hc.right]

theorem run_word {d : Dialect} (hv : scalar? d w = some v) (hw : ∀ c ∈ w, endsWord c = false)
    (hr : EndsWord rest) :
    run d ⟨.between, acc⟩ (w ++ rest) = run d ⟨.between, .scalar v :: acc⟩ rest := by
  cases w
  case nil => simp [scalar?, Numeral.read?, Numeral.splitSign, Numeral.isWhole] at hv
  case cons c w =>
    obtain ⟨hc, hw⟩ := List.forall_mem_cons.mp hw
    rw [List.cons_append, run, step, start_of_not_endsWord hc]
    show run d _ _ = _
    rw [run_word_append d hw]
    cases rest
    case nil => simp [run, finish, hv]
    case cons e rest =>
      have he : endsWord e := hr e rfl
      simp [run, step, he, hv]

theorem not_endsWord (hc : c ∉ [' ', '\t', '\n', '\r', '"', '[', ']', '\x7b', '\x7d', ':', ',']) :
    endsWord c = false := by
  simp only [List.mem_cons, List.not_mem_nil, or_false, not_or] at hc
  have hp : punctuation? c = none := by
    unfold punctuation?
    split <;> simp_all
  simp [endsWord, isSpace, hp, hc]

theorem not_endsWord_toString (n : Int) : ∀ c ∈ (toString n).toList, endsWord c = false := by
  intro c hc
  apply not_endsWord
  rcases isDigit_toString hc with rfl | hd
  case inl => decide
  case inr =>
    intro hm
    simp only [List.mem_cons, List.not_mem_nil, or_false] at hm
    rcases hm with rfl | rfl | rfl | rfl | rfl | rfl | rfl | rfl | rfl | rfl | rfl <;> contradiction

theorem run_newLine (d : Dialect) (level : Nat) :
    run d ⟨.between, acc⟩ (newLine level ++ rest) = run d ⟨.between, acc⟩ rest := by
  have hs (n : Nat) : run d ⟨.between, acc⟩ (List.replicate n ' ' ++ rest) =
      run d ⟨.between, acc⟩ rest := by
    induction n
    case zero => rfl
    case succ n hi => exact hi
  exact hs (2 * level)

theorem endsWord_newLine (level : Nat) (rest : List Char) : EndsWord (newLine level ++ rest) := by
  rintro _ ⟨⟩
  rfl

end Lexer

/-! ### Documents -/

-- The documents that both dialects write: they have no floating-point numbers, and their integers
-- are those of the strict dialect. The keys of an object differ.
inductive IsPlain : Json → Prop
  | null : IsPlain null
  | bool : IsPlain (bool b)
  | int : Dialect.strict.holds n → IsPlain (int n)
  | text : IsPlain (text s)
  | list : (∀ v ∈ items, IsPlain v) → IsPlain (list items)
  | object : (members.map Prod.fst).Nodup → (∀ m ∈ members, IsPlain m.2) → IsPlain (object members)

mutual

-- The tokens of a document, however it is laid out.
def tokensOf : Json → List Token
  | text s => [.text s]
  | list [] => [.listStart, .listEnd]
  | list (v :: rest) => .listStart :: tokensOf v ++ itemsTokens rest ++ [.listEnd]
  | object [] => [.objectStart, .objectEnd]
  | object ((k, v) :: rest) =>
    .objectStart :: .text k :: .colon :: tokensOf v ++ membersTokens rest ++ [.objectEnd]
  | v => [.scalar v]

def itemsTokens : List Json → List Token
  | [] => []
  | v :: rest => .comma :: tokensOf v ++ itemsTokens rest

def membersTokens : Members → List Token
  | [] => []
  | (k, v) :: rest => .comma :: .text k :: .colon :: tokensOf v ++ membersTokens rest

end

namespace Lexer

variable {d d' : Dialect}

-- A document is read token by token as it has been written, whatever stands before and behind it.
def Lexes (d d' : Dialect) (v : Json) : Prop :=
  ∀ level acc rest, EndsWord rest →
    run d' ⟨.between, acc⟩ (writeAt d level v ++ rest) =
      run d' ⟨.between, (tokensOf v).reverse ++ acc⟩ rest

theorem lexes_word (hw : ∀ c ∈ w, endsWord c = false) (hv : scalar? d' w = some v)
    (hs : ∀ level, writeAt d level v = w) (ht : tokensOf v = [.scalar v]) : Lexes d d' v := by
  intro level acc rest hr
  rw [hs, ht, run_word hv hw hr]
  rfl

theorem endsWord_writeItems (d : Dialect) (hr : EndsWord rest) :
    EndsWord (writeItems d level items ++ rest) := by
  cases items
  case nil => exact hr
  case cons =>
    rintro _ ⟨⟩
    rfl

theorem endsWord_writeMembers (d : Dialect) (hr : EndsWord rest) :
    EndsWord (writeMembers d level members ++ rest) := by
  cases members
  case nil => exact hr
  case cons =>
    rintro _ ⟨⟩
    rfl

theorem run_comma (d : Dialect) :
    run d ⟨.between, acc⟩ (',' :: rest) = run d ⟨.between, .comma :: acc⟩ rest := by
  rfl

theorem run_colon (d : Dialect) :
    run d ⟨.between, acc⟩ (':' :: ' ' :: rest) = run d ⟨.between, .colon :: acc⟩ rest := by
  rfl

theorem run_writeItems (h : ∀ v ∈ items, Lexes d d' v) (hr : EndsWord rest) :
    run d' ⟨.between, acc⟩ (writeItems d level items ++ rest) =
      run d' ⟨.between, (itemsTokens items).reverse ++ acc⟩ rest := by
  induction items generalizing acc
  case nil => rfl
  case cons v items hi =>
    have ⟨hv, h⟩ := List.forall_mem_cons.mp h
    simp only [writeItems, List.cons_append, List.append_assoc, run_comma, run_newLine,
      hv _ _ _ (endsWord_writeItems d hr), hi h, itemsTokens, List.reverse_cons,
      List.reverse_append, List.nil_append]

theorem run_writeMembers (h : ∀ m ∈ members, Lexes d d' m.2) (hr : EndsWord rest) :
    run d' ⟨.between, acc⟩ (writeMembers d level members ++ rest) =
      run d' ⟨.between, (membersTokens members).reverse ++ acc⟩ rest := by
  induction members generalizing acc
  case nil => rfl
  case cons m members hi =>
    have ⟨hv, h⟩ := List.forall_mem_cons.mp h
    simp only [writeMembers, List.cons_append, List.append_assoc, run_comma, run_newLine,
      run_writeText, run_colon, hv _ _ _ (endsWord_writeMembers d hr), hi h, membersTokens,
      List.reverse_cons, List.reverse_append, List.nil_append]

theorem lexes_int (hn : d'.holds n) (hl : n.natAbs < 10 ^ Text.maxDigits) : Lexes d d' (.int n) :=
  lexes_word (not_endsWord_toString n) (scalar?_toString hn hl) (fun _ => rfl) rfl

theorem lexes_text (d d' : Dialect) (s : String) : Lexes d d' (.text s) :=
  fun _ _ _ _ => run_writeText ..

theorem lexes_list (h : ∀ v ∈ items, Lexes d d' v) : Lexes d d' (.list items) := by
  intro level acc rest hr
  cases items
  case nil => rfl
  case cons v items =>
    have ⟨hv, h⟩ := List.forall_mem_cons.mp h
    have hn : EndsWord (newLine level ++ (']' :: rest)) := endsWord_newLine level _
    have hs (acc rest) : run d' ⟨.between, acc⟩ ('[' :: rest) =
        run d' ⟨.between, .listStart :: acc⟩ rest := rfl
    have hc (acc rest) : run d' ⟨.between, acc⟩ (']' :: rest) =
        run d' ⟨.between, .listEnd :: acc⟩ rest := rfl
    simp [writeAt, tokensOf, hs, run_newLine, hv _ _ _ (endsWord_writeItems d hn),
      run_writeItems h hn, hc]

theorem lexes_object (h : ∀ m ∈ members, Lexes d d' m.2) : Lexes d d' (.object members) := by
  intro level acc rest hr
  cases members
  case nil => rfl
  case cons m members =>
    have ⟨hv, h⟩ := List.forall_mem_cons.mp h
    have hn : EndsWord (newLine level ++ ('\x7d' :: rest)) := endsWord_newLine level _
    have hs (acc rest) : run d' ⟨.between, acc⟩ ('\x7b' :: rest) =
        run d' ⟨.between, .objectStart :: acc⟩ rest := rfl
    have hc (acc rest) : run d' ⟨.between, acc⟩ ('\x7d' :: rest) =
        run d' ⟨.between, .objectEnd :: acc⟩ rest := rfl
    simp [writeAt, tokensOf, hs, run_newLine, run_writeText, run_colon,
      hv _ _ _ (endsWord_writeMembers d hn), run_writeMembers h hn, hc]

theorem lexes_of_isPlain (hd : ∀ n, Dialect.strict.holds n → d'.holds n) (h : v.IsPlain) :
    Lexes d d' v := by
  induction h
  case null => exact lexes_word (by simp [not_endsWord]) rfl (fun _ => rfl) rfl
  case bool b =>
    cases b
    case false => exact lexes_word (by simp [not_endsWord]) rfl (fun _ => rfl) rfl
    case true => exact lexes_word (by simp [not_endsWord]) rfl (fun _ => rfl) rfl
  case int n hn => exact lexes_int (hd n hn) <| natAbs_lt hn
  case text s => exact lexes_text d d' s
  case list hi => exact lexes_list hi
  case object hi => exact lexes_object hi

theorem run_blanks (d : Dialect) {blanks : List Char} (hb : ∀ c ∈ blanks, isSpace c) :
    run d ⟨.between, acc⟩ blanks = acc := by
  induction blanks
  case nil => rfl
  case cons c blanks hi =>
    have ⟨hc, hb⟩ := List.forall_mem_cons.mp hb
    simp [run, step, start, hc, hi hb]

end Lexer

-- Blanks behind a document come to nothing.
theorem tokens_writeAt {d d' : Dialect} {blanks : List Char} (h : Lexer.Lexes d d' v)
    (hb : ∀ c ∈ blanks, Lexer.isSpace c) :
    tokens d' (writeAt d level v ++ blanks) = tokensOf v := by
  have he : Lexer.EndsWord blanks := by
    intro c hc
    simp [Lexer.endsWord, hb c <| List.mem_of_mem_head? hc]
  rw [tokens, show ({} : Lexer) = ⟨.between, []⟩ from rfl, h _ _ _ he, Lexer.run_blanks d' hb,
    List.append_nil, List.reverse_reverse]

end StepCatalog.Json
