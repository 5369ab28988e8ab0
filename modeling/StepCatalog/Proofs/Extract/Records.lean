import Mathlib
import StepCatalog.Proofs.Extract.Listing
import StepCatalog.Proofs.Json.Files

namespace StepCatalog.Extract

open Json List

/-! ### Lines of a file -/

theorem lines_ne_nil (bytes : List UInt8) : lines bytes ≠ [] := by
  cases bytes
  case nil => simp [lines]
  case cons b bytes =>
    rw [lines]
    split
    case isTrue => simp
    case isFalse => split <;> simp

-- A line feed between two texts ends the last line of the first one.
theorem lines_append (a b : List UInt8) : lines (a ++ 0x0a :: b) = lines a ++ lines b := by
  induction a
  case nil => rfl
  case cons c a hi =>
    rw [cons_append, lines, lines, hi]
    split
    case isTrue => rfl
    case isFalse =>
      cases hl : lines a
      case nil => exact absurd hl <| lines_ne_nil a
      case cons => rfl

theorem contents_append (a b : ByteArray) :
    contents (a ++ ⟨#[0x0a]⟩ ++ b) = contents a ++ contents b := by
  have hb : (a ++ ⟨#[0x0a]⟩ ++ b).toList = a.toList ++ 0x0a :: b.toList := by
    simp [toList_eq, ByteArray.data_append]
  rw [contents, hb, lines_append, map_append, filter_append]
  rfl

/-! ### One line -/

def HoldsObject (d : Dialect) (l : List UInt8) (members : Members) : Prop :=
  decode d ⟨l.toArray⟩ = .ok (.object members)

-- A line is passed over if it is blank, and its object is taken if it holds one.
def Passes (d : Dialect) (l : List UInt8) : Prop :=
  trimLine l = [] ∨ ∃ members, HoldsObject d (trimLine l) members

-- What is said of line `number` of a file if it holds no object. It is named as a line that is
-- malformed or no object, unless it goes too deep in a dialect that reports that.
inductive LineFails (d : Dialect) (path : String) (number : Nat) (l : List UInt8) (e : Fault) : Prop
  | malformed (h : decode d ⟨l.toArray⟩ = .error .malformed) (kind : e.kind = .invalidValue)
    (message : e.message = "Invalid JSON at " ++ path ++ ":" ++ toString number)
  | notAnObject (h : decode d ⟨l.toArray⟩ = .ok v) (hv : ∀ members, v ≠ .object members)
    (kind : e.kind = .invalidValue)
    (message : e.message = "Expected a JSON object at " ++ path ++ ":" ++ toString number)
  | tooDeep (h : decode d ⟨l.toArray⟩ = .error (.tooDeep c)) (hd : d.reportsDepth)
    (kind : e.kind = .tooDeep) (message : e.message = c.tooDeepMessage)

theorem readLine_eq_ok_iff : readLine d path number l = .ok members ↔ HoldsObject d l members := by
  rw [HoldsObject, readLine]
  split
  case h_1 h => simp [h]
  case h_2 v hv h => simpa [h] using hv members
  case h_3 h => simp [h]

theorem lineFails_of_readLine (h : readLine d path number l = .error e) :
    LineFails d path number l e := by
  unfold readLine at h
  split at h
  case h_1 => contradiction
  case h_2 v hv hd =>
    cases h
    exact .notAnObject hd hv rfl rfl
  case h_3 e' hd =>
    cases h
    cases e'
    case malformed => exact .malformed hd rfl rfl
    case tooDeep c => exact .tooDeep hd (decode_raises d _ _ hd c rfl) rfl rfl

/-! ### All lines -/

-- All lines before the one that fails are passed, and blank ones are counted with the others.
theorem exists_of_readLines_eq_error (h : readLines d path number ls = .error e) :
    ∃ before l after, ls = before ++ l :: after ∧ (∀ b ∈ before, Passes d b) ∧ trimLine l ≠ [] ∧
      readLine d path (number + before.length) (trimLine l) = .error e := by
  induction ls generalizing number <;> simp only [readLines] at h
  case nil => contradiction
  case cons l ls hi =>
    have pass (hl : Passes d l) (h : readLines d path (number + 1) ls = .error e) :
        ∃ before l' after, l :: ls = before ++ l' :: after ∧ (∀ b ∈ before, Passes d b) ∧
          trimLine l' ≠ [] ∧
          readLine d path (number + before.length) (trimLine l') = .error e := by
      obtain ⟨before, l', after, rfl, hp, hn, he⟩ := hi h
      refine ⟨l :: before, l', after, rfl, forall_mem_cons.mpr ⟨hl, hp⟩, hn, ?_⟩
      rwa [length_cons, Nat.add_comm before.length, ← Nat.add_assoc]
    split at h
    case isTrue hl => exact pass (.inl <| isEmpty_iff.mp hl) h
    case isFalse hl =>
      rcases bind_eq_error_iff.mp h with h | ⟨members, hm, h⟩
      case inl => exact ⟨[], l, ls, rfl, forall_mem_nil _, mt isEmpty_iff.mpr hl, h⟩
      case inr =>
        rcases bind_eq_error_iff.mp h with h | ⟨_, _, h⟩
        case inl => exact pass (.inr ⟨members, readLine_eq_ok_iff.mp hm⟩) h
        case inr => contradiction

variable {d : Dialect} {t : FileTree} {p : Path}

theorem loadLines_eq_ok_iff_forall₂ (hr : t.read p = .ok bytes) :
    loadLines d t p = .ok records ↔ Forall₂ (HoldsObject d) (contents bytes) records := by
  simp only [loadLines_eq_ok_iff hr, mapM_eq_ok_iff, objectOn_eq_ok_iff]
  rfl

-- The lines of a file that are not blank each hold an object, and these are what it has, or else the
-- first line that holds none is named by its number among all lines. Only a line that goes too deep
-- is not named.
theorem loadLines_by_line (hr : t.read p = .ok bytes) :
    ((∃ records, loadLines d t p = .ok records) ↔
      ∀ l ∈ contents bytes, ∃ members, HoldsObject d l members) ∧
    (∀ records, loadLines d t p = .ok records ↔
      Forall₂ (HoldsObject d) (contents bytes) records) ∧
    (∀ e, loadLines d t p = .error e → ∃ before l after,
      lines bytes.toList = before ++ l :: after ∧ (∀ b ∈ before, Passes d b) ∧ ¬Passes d l ∧
      LineFails d p.text (before.length + 1) (trimLine l) e) ∧
    ∀ t' p' bytes' records records', t'.read p' = .ok bytes' →
      loadLines d t p = .ok records → loadLines d t' p' = .ok records' →
      ∀ t'' p'', t''.read p'' = .ok (bytes ++ ⟨#[0x0a]⟩ ++ bytes') →
        loadLines d t'' p'' = .ok (records ++ records') := by
  refine ⟨?returns, fun _ => loadLines_eq_ok_iff_forall₂ hr, ?fails, ?joined⟩
  case returns =>
    simp only [loadLines_eq_ok_iff hr, exists_mapM_iff, objectOn_eq_ok_iff]
    rfl
  case fails =>
    intro e he
    rw [loadLines_eq hr] at he
    obtain ⟨before, l, after, hl, hp, hn, he⟩ := exists_of_readLines_eq_error he
    rw [Nat.add_comm] at he
    refine ⟨before, l, after, hl, hp, ?_, lineFails_of_readLine he⟩
    rintro (hb | ⟨members, hm⟩)
    case inl => exact hn hb
    case inr => exact nomatch he.symm.trans <| readLine_eq_ok_iff.mpr hm
  case joined =>
    intro t' p' bytes' records records' hr' h h' t'' p'' hr''
    rw [loadLines_eq_ok_iff_forall₂ hr] at h
    rw [loadLines_eq_ok_iff_forall₂ hr'] at h'
    rw [loadLines_eq_ok_iff_forall₂ hr'', contents_append]
    exact rel_append h h'

-- Files of records, one of them with a line that is no object behind a blank one.
def recordsTree : FileTree where
  entries := [
    (⟨"", ["a"]⟩, .file "\x7b\"n\": 1\x7d\x0d\n".toUTF8),
    (⟨"", ["b"]⟩, .file "\n\x7b\"n\": 2\x7d".toUTF8),
    (⟨"", ["c"]⟩, .file ("\x7b\"n\": 1\x7d\x0d\n".toUTF8 ++ ⟨#[0x0a]⟩ ++ "\n\x7b\"n\": 2\x7d".toUTF8)),
    (⟨"", ["r"]⟩, .file "\x7b\"n\": 1\x7d\x0d\n \n[2]\n\x7b".toUTF8)]

theorem loadLines_by_line_records :
    (∃ bytes before l after, recordsTree.read ⟨"", ["r"]⟩ = .ok bytes ∧
      lines bytes.toList = before ++ l :: after ∧ (∀ b ∈ before, Passes .strict b) ∧
      ¬Passes .strict l ∧
      LineFails .strict "r" (before.length + 1) (trimLine l) (.notAnObject "r" 3)) ∧
    ∃ records records', loadLines .strict recordsTree ⟨"", ["a"]⟩ = .ok records ∧
      loadLines .strict recordsTree ⟨"", ["b"]⟩ = .ok records' ∧
      loadLines .strict recordsTree ⟨"", ["c"]⟩ = .ok (records ++ records') := by
  constructor
  case left =>
    have hf : (loadLines .strict recordsTree ⟨"", ["r"]⟩).map (fun _ => ()) =
        .error (.notAnObject "r" 3) := by
      decide +kernel
    have he := map_eq_error_iff.mp hf
    obtain ⟨before, l, after, h⟩ := (loadLines_by_line rfl).2.2.1 _ he
    exact ⟨_, before, l, after, rfl, h⟩
  case right =>
    have ha : (loadLines .strict recordsTree ⟨"", ["a"]⟩).isOk := by decide +kernel
    have hb : (loadLines .strict recordsTree ⟨"", ["b"]⟩).isOk := by decide +kernel
    obtain ⟨records, ha⟩ := exists_of_isOk ha
    obtain ⟨records', hb⟩ := exists_of_isOk hb
    exact ⟨records, records', ha, hb, (loadLines_by_line rfl).2.2.2 _ _ _ _ _ rfl ha hb _ _ rfl⟩

/-! ### Lines that go too deep -/

theorem lines_of_notMem (h : 0x0a ∉ bytes) : lines bytes = [bytes] := by
  induction bytes
  case nil => rfl
  case cons b bytes hi =>
    rw [mem_cons, not_or] at h
    rw [lines, hi h.right, if_neg (Ne.symm h.left)]

theorem trimLine_eq_self (h : ∀ b ∈ l, isBlankByte b = false) : trimLine l = l := by
  have hd {l : List UInt8} (h : ∀ b ∈ l, isBlankByte b = false) : l.dropWhile isBlankByte = l := by
    rw [dropWhile_eq_self_iff]
    exact fun hl => Bool.eq_false_iff.mp <| h _ <| getElem_mem hl
  rw [trimLine, hd h, hd (l := l.reverse) (by simpa using h), reverse_reverse]

def nestedBytes (n : Nat) : ByteArray := (String.ofList (nestedText n)).toUTF8

theorem toList_nestedBytes (n : Nat) :
    (nestedBytes n).toList = replicate n 0x5b ++ replicate n 0x5d := by
  have ho : String.utf8EncodeChar '[' = [0x5b] := rfl
  have hc : String.utf8EncodeChar ']' = [0x5d] := rfl
  rw [nestedBytes, toList_toUTF8, String.toList_ofList, nestedText]
  simp [flatMap_replicate, ho, hc]

-- Lists inside of each other stand on one line.
theorem contents_nestedBytes (hn : n ≠ 0) :
    contents (nestedBytes n) = [(nestedBytes n).toList] := by
  have hl := toList_nestedBytes n
  have hf : 0x0a ∉ (nestedBytes n).toList := by simp [hl]
  have hb : ∀ b ∈ (nestedBytes n).toList, isBlankByte b = false := by
    simp [hl, isBlankByte, or_imp, forall_and]
  rw [contents, lines_of_notMem hf, map_singleton, trimLine_eq_self hb]
  simp [hl, hn]

def nestedTree (n : Nat) : FileTree := ⟨[(⟨"", ["d"]⟩, .file (nestedBytes n))]⟩

theorem exists_tooDeep_of_parse_nestedText [Runtime] (hn : n ≠ 0)
    (hp : parse .lenient (nestedText n) = .error (.tooDeep c)) :
    ∃ e, loadLines .lenient (nestedTree n) ⟨"", ["d"]⟩ = .error e ∧ e.kind ≠ .invalidValue := by
  have ho : objectOn .lenient (nestedBytes n).toList = .error (.tooDeep c) := by
    rw [objectOn, toList_eq, nestedBytes, decode_nestedText, hp]
  have hf : FailsFirst (objectOn .lenient) (contents (nestedBytes n)) (.tooDeep c) := by
    rw [contents_nestedBytes hn]
    exact ⟨[], _, [], rfl, nofun, ho⟩
  have hr : (nestedTree n).read ⟨"", ["d"]⟩ = .ok (nestedBytes n) := rfl
  exact ⟨_, (loadLines_eq_error_iff hr).mpr ⟨c, rfl, hf⟩⟩

-- Lists inside of each other go too deep for the lenient dialect at some point, and nothing is said
-- then of the line in which they stand.
theorem not_forall_loadLines_named :
    ¬∃ _ : Runtime, ∀ d ∈ Dialect.all, ∀ t p bytes, t.read p = .ok bytes →
      ∀ e, loadLines d t p = .error e → e.kind = .invalidValue := by
  rintro ⟨_, h⟩
  have ⟨_, _, _, hp⟩ := exists_tooDeep_nestedText
  obtain ⟨e, he, hk⟩ := exists_tooDeep_of_parse_nestedText (by decide) hp
  exact hk <| h _ Dialect.lenient_mem_all _ _ _ rfl e he

end StepCatalog.Extract
