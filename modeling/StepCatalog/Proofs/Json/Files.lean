import Mathlib
import StepCatalog.Extract
import StepCatalog.Proofs.Json.Dialects
import StepCatalog.Settings

namespace StepCatalog.Json

section

variable [Runtime]

-- The bytes of a document on which the dialects should agree, if the strict one reads them.
structure IsCommon (bytes : ByteArray) : Prop where
  holds : HoldsIntegersOf bytes
  isShallow : IsShallowOf bytes

-- The file at a path is one such document.
def IsCommonAt (t : FileTree) (p : Path) : Prop :=
  ∀ bytes, t.read p = .ok bytes → IsCommon bytes

-- The file at a path has one such document on each line.
def IsCommonInLinesAt (t : FileTree) (p : Path) : Prop :=
  ∀ bytes, t.read p = .ok bytes → ∀ l ∈ lines bytes.toList, IsCommon ⟨(trimLine l).toArray⟩

theorem IsCommon.decode_eq (h : IsCommon bytes) (hd : decode .strict bytes = .ok v) :
    decode .lenient bytes = .ok v :=
  (decode_lenient hd h.holds).left h.isShallow

theorem load_lenient (h : load .strict t p = .ok v) (hc : IsCommonAt t p) :
    load .lenient t p = .ok v := by
  unfold load at h ⊢
  cases hr : t.read p <;> simp only [hr] at h ⊢
  case error e => cases e <;> contradiction
  case ok bytes =>
    rw [mapError_eq_ok_iff] at h ⊢
    exact (hc bytes hr).decode_eq h

theorem readLine_lenient (h : readLine .strict path number l = .ok members)
    (hc : IsCommon ⟨l.toArray⟩) : readLine .lenient path number l = .ok members := by
  unfold readLine at h ⊢
  split at h
  case h_1 hd => simp only [hc.decode_eq hd, h]
  case h_2 | h_3 => contradiction

theorem readLines_lenient (h : readLines .strict path number ls = .ok records)
    (hc : ∀ l ∈ ls, IsCommon ⟨(trimLine l).toArray⟩) :
    readLines .lenient path number ls = .ok records := by
  induction ls generalizing number records <;> simp only [readLines] at h ⊢
  case nil => exact h
  case cons l ls hi =>
    have ⟨hl, hc⟩ := List.forall_mem_cons.mp hc
    split at h
    case isTrue he => rw [if_pos he, hi h hc]
    case isFalse he =>
      rw [if_neg he]
      have ⟨members, hm, h⟩ := bind_eq_ok_iff.mp h
      have ⟨rest, hr, h⟩ := bind_eq_ok_iff.mp h
      rw [readLine_lenient hm hl, hi hr hc]
      exact h

theorem loadLines_lenient (h : loadLines .strict t p = .ok records) (hc : IsCommonInLinesAt t p) :
    loadLines .lenient t p = .ok records := by
  have ⟨bytes, hb, h⟩ := bind_eq_ok_iff.mp h
  rw [loadLines, hb]
  exact readLines_lenient h <| hc bytes <| mapError_eq_ok_iff.mp hb

-- The settings and records of files that the strict dialect loads are the same in both dialects,
-- also where they are not what is asked for.
theorem lenient_refines_strict :
    (∀ bytes v, decode .strict bytes = .ok v → HoldsIntegersOf bytes →
      (IsShallowOf bytes → decode .lenient bytes = .ok v) ∧
      (¬IsShallowOf bytes → ∃ c, decode .lenient bytes = .error (.tooDeep c))) ∧
    (∀ t p v, load .strict t p = .ok v → IsCommonAt t p →
      Settings.load .lenient t p = Settings.load .strict t p) ∧
    ∀ t p records, loadLines .strict t p = .ok records → IsCommonInLinesAt t p →
      Extract.definitions .lenient t p = Extract.definitions .strict t p ∧
      Extract.features .lenient t (some p) = Extract.features .strict t (some p) := by
  refine ⟨fun _ _ => decode_lenient, ?settings, ?records⟩
  case settings =>
    intro t p v h hc
    simp only [Settings.load, h, load_lenient h hc]
  case records =>
    intro t p records h hc
    simp only [Extract.definitions, Extract.features, h, loadLines_lenient h hc, and_self]

end

-- A record with a path and a number, which is also a document of settings.
def recordText : List Char :=
  [ '{', '"', 'p', 'a', 't', 'h', '"', ':', '"', 'f', '"', ',', '"', 'n', '"', ':', '7', '}' ]

def recordBytes : ByteArray := (String.ofList recordText).toUTF8

def recordPath : Path := ⟨"", ["r"]⟩

def recordTree : FileTree where
  entries := [(recordPath, .file recordBytes)]

theorem decodeText?_recordBytes (d : Dialect) : decodeText? d recordBytes = some recordText := by
  have hz : '\x00' ∉ (String.ofList recordText).toList := by simp [recordText]
  have ha : ∀ c ∈ (String.ofList recordText).toList.head?, c.toNat < 0x80 := by simp [recordText]
  rw [recordBytes, decodeText?_toUTF8 d hz ha, String.toList_ofList]

theorem decode_recordBytes :
    decode .strict recordBytes = .ok (.object [("path", .text "f"), ("n", .int 7)]) := by
  rw [decode, decodeText?_recordBytes]
  rfl

theorem tokens_recordText : tokens .lenient recordText =
    [ .objectStart, .text "path", .colon, .text "f", .comma, .text "n", .colon, .scalar (.int 7),
      .objectEnd ] := by
  rfl

theorem isCommon_recordBytes : IsCommon recordBytes := by
  constructor <;> intro s h <;> rw [decodeText?_recordBytes] at h <;> cases h
  case holds =>
    intro n hn
    have : n = 7 := by simpa [tokens_recordText] using hn
    rw [this]
    decide
  case isShallow => exact Nat.le_of_ble_eq_true rfl

theorem lines_recordBytes : lines recordBytes.toList = [recordBytes.toList] ∧
    trimLine recordBytes.toList = recordBytes.toList := by
  have hb : recordBytes.toList = recordText.flatMap String.utf8EncodeChar := by
    rw [recordBytes, toList_toUTF8, String.toList_ofList]
  rw [hb]
  decide

theorem lenient_refines_strict_record :
    decode .lenient recordBytes = .ok (.object [("path", .text "f"), ("n", .int 7)]) ∧
    Settings.load .lenient recordTree recordPath = Settings.load .strict recordTree recordPath ∧
    Extract.features .lenient recordTree (some recordPath) =
      Extract.features .strict recordTree (some recordPath) := by
  have hr : recordTree.read recordPath = .ok recordBytes := rfl
  have hc : IsCommonAt recordTree recordPath := by
    intro bytes hb
    cases hr.symm.trans hb
    exact isCommon_recordBytes
  have hl : IsCommonInLinesAt recordTree recordPath := by
    intro bytes hb l hl
    cases hr.symm.trans hb
    rw [lines_recordBytes.left, List.mem_singleton] at hl
    rw [hl, lines_recordBytes.right, toList_eq]
    exact isCommon_recordBytes
  have hd : load .strict recordTree recordPath =
      .ok (.object [("path", .text "f"), ("n", .int 7)]) := by
    rw [load, hr]
    exact mapError_eq_ok_iff.mpr decode_recordBytes
  have hs : loadLines .strict recordTree recordPath =
      .ok [[("path", .text "f"), ("n", .int 7)]] := by
    have hl : readLine .strict recordPath.text 1 recordBytes.toList =
        .ok [("path", .text "f"), ("n", .int 7)] := by
      rw [readLine, toList_eq, decode_recordBytes]
    have he : recordBytes.toList.isEmpty = false := by
      rw [toList_eq]
      rfl
    rw [loadLines, hr]
    show readLines _ _ _ _ = _
    rw [lines_recordBytes.left, readLines, lines_recordBytes.right, he, hl]
    rfl
  have ⟨hdecode, hsettings, hrecords⟩ := lenient_refines_strict
  exact ⟨(hdecode _ _ decode_recordBytes isCommon_recordBytes.holds).left
      isCommon_recordBytes.isShallow, hsettings _ _ _ hd hc, (hrecords _ _ _ hs hl).right⟩

/-! ### Where they part -/

-- An empty list inside of so many others, counting itself.
def nestedText (n : Nat) : List Char := List.replicate n '[' ++ List.replicate n ']'

theorem decodeText?_nestedText (d : Dialect) (n : Nat) :
    decodeText? d (String.ofList (nestedText n)).toUTF8 = some (nestedText n) := by
  have hz : '\x00' ∉ (String.ofList (nestedText n)).toList := by simp [nestedText]
  have ha : ∀ c ∈ (String.ofList (nestedText n)).toList.head?, c.toNat < 0x80 := by
    cases n
    case zero => simp [nestedText]
    case succ => simp [nestedText, List.replicate_succ]
  rw [decodeText?_toUTF8 d hz ha, String.toList_ofList]

theorem decode_nestedText (d : Dialect) (n : Nat) :
    decode d (String.ofList (nestedText n)).toUTF8 = parse d (nestedText n) := by
  rw [decode, decodeText?_nestedText]

-- The brackets are tokens of their own.
theorem tokens_nestedText (d : Dialect) (n : Nat) :
    tokens d (nestedText n) = List.replicate n .listStart ++ List.replicate n .listEnd := by
  have hr (c : Char) (t : Token) (hc : ∀ ts, Lexer.start ts c = ⟨.between, t :: ts⟩)
      (m : Nat) (ts : List Token) (rest : List Char) :
      Lexer.run d ⟨.between, ts⟩ (List.replicate m c ++ rest) =
        Lexer.run d ⟨.between, List.replicate m t ++ ts⟩ rest := by
    induction m generalizing ts
    case zero => rfl
    case succ m hi =>
      rw [List.replicate_succ, List.cons_append, Lexer.run, Lexer.step]
      simp only [hc]
      rw [hi, List.replicate_succ', List.append_assoc, List.singleton_append]
  have ho := hr '[' .listStart (fun _ => rfl) n [] (List.replicate n ']')
  have hc := hr ']' .listEnd (fun _ => rfl) n (List.replicate n .listStart) []
  simp only [List.append_nil] at ho hc
  rw [tokens, nestedText, show ({} : Lexer) = ⟨.between, []⟩ from rfl, ho, hc, Lexer.run,
    Lexer.finish]
  simp

theorem le_nesting_replicate (level n : Nat) (ts : List Token) :
    level + n ≤ nesting level (List.replicate n .listStart ++ ts) := by
  induction n generalizing level
  case zero => exact level_le_nesting level ts
  case succ n hi =>
    rw [List.replicate_succ, List.cons_append, nesting]
    have : level + 1 + n ≤ _ := hi <| Token.listStart.level level
    omega

section

variable [Runtime]

-- The text has no integers at all.
theorem holdsIntegers_nestedText (n : Nat) : HoldsIntegers (nestedText n) := by
  intro m hm
  simp [tokens_nestedText] at hm

-- These are too many lists for the lenient dialect, however deep it goes.
theorem exists_tooDeep_nestedText :
    ∃ v c, parse .strict (nestedText 1024) = .ok v ∧
      parse .lenient (nestedText 1024) = .error (.tooDeep c) := by
  have hs : (parse .strict (nestedText 1024)).toOption.isSome := by decide +kernel
  have hn : 1024 ≤ nesting 0 (tokens .strict (nestedText 1024)) := by
    rw [tokens_nestedText]
    exact (Nat.zero_add 1024).ge.trans <| le_nesting_replicate ..
  cases hp : parse .strict (nestedText 1024)
  case error e => simp [hp, Except.toOption] at hs
  case ok v =>
    have hi : ¬IsShallow (nestedText 1024) :=
      Nat.not_le.mpr <| Nat.lt_of_lt_of_le Runtime.readDepth_lt hn
    have ⟨c, hc⟩ := (parse_lenient hp <| holdsIntegers_nestedText _).right hi
    exact ⟨v, c, rfl, hc⟩

end

-- Lists that are nested deeper than the lenient dialect goes are read by the strict one.
theorem not_forall_decode_lenient :
    ¬∃ _ : Runtime, ∀ bytes v, decode .strict bytes = .ok v → HoldsIntegersOf bytes →
      decode .lenient bytes = .ok v := by
  rintro ⟨_, h⟩
  have ⟨v, c, hs, hl⟩ := exists_tooDeep_nestedText
  have hi : HoldsIntegersOf (String.ofList (nestedText 1024)).toUTF8 := by
    intro s hs
    rw [decodeText?_nestedText] at hs
    cases hs
    exact holdsIntegers_nestedText _
  have hd := h _ v (by rw [decode_nestedText, hs]) hi
  rw [decode_nestedText] at hd
  exact nomatch hl.symm.trans hd

end StepCatalog.Json
