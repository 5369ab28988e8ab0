import Mathlib
import StepCatalog.Extract
import StepCatalog.Proofs.Json.Decoded
import StepCatalog.Proofs.Json.RoundTrip
import StepCatalog.Proofs.Outcome

namespace StepCatalog

open Json

-- Faults for which no record is blamed.
def Fault.IsUnblamed (e : Fault) : Prop :=
  e.kind = .overflow ∨ e.kind = .tooDeep

namespace Extract

/-! ### Numbers, members and items -/

theorem toInteger_raises (v : Json) :
    Raises (toInteger v) fun e => e.kind = .overflow ∨ e.kind = .tooDeep →
      e = .infiniteNumber ∧ ∃ negative, v = .float (.infinite negative) := by
  intro e he
  unfold toInteger at he
  split at he
  case h_1 | h_2 => contradiction
  case h_4 x _ =>
    cases x
    case finite => contradiction
    case infinite => cases he; exact fun _ => ⟨rfl, _, rfl⟩
    case notANumber => contradiction
  case h_3 | h_6 => cases he; simp [Fault.kind]
  case h_5 =>
    split at he
    case h_1 => contradiction
    all_goals cases he; simp [Fault.kind]

theorem lineOf_eq_error_iff : lineOf v = .error e ↔
    e = .infiniteNumber ∧ ∃ negative, v = some (.float (.infinite negative)) := by
  constructor
  case mpr =>
    rintro ⟨rfl, negative, rfl⟩
    rfl
  case mp =>
    intro h
    unfold lineOf at h
    split at h
    case h_1 | h_3 => contradiction
    case h_2 hi =>
      cases h
      have := toInteger_raises _ _ hi <| .inl rfl
      refine ⟨rfl, ?_⟩
      cases v
      case none => contradiction
      case some => simpa using this.right

theorem one_le_of_lineOf (h : lineOf v = .ok n) : 1 ≤ n := by
  unfold lineOf at h
  split at h
  case h_1 => cases h; split <;> omega
  case h_2 => contradiction
  case h_3 => cases h; decide

-- Every value makes a line number but an infinite one.
theorem lineOf_iff (v : Option Json) :
    (∃ n, lineOf v = .ok n ∧ 1 ≤ n) ↔ ∀ negative, v ≠ some (.float (.infinite negative)) := by
  constructor
  case mp =>
    rintro ⟨n, h, _⟩ negative rfl
    contradiction
  case mpr =>
    intro h
    cases hl : lineOf v
    case ok n => exact ⟨n, rfl, one_le_of_lineOf hl⟩
    case error e =>
      have ⟨_, negative, hv⟩ := lineOf_eq_error_iff.mp hl
      exact absurd hv <| h negative

theorem membersOf_raises (v : Json) : Raises (membersOf v) fun e => ¬e.IsUnblamed := by
  cases v
  case object members => exact Raises.ok members _
  all_goals exact Raises.error <| by simp [Fault.IsUnblamed, Fault.kind]

theorem eq_object_of_membersOf (h : membersOf v = .ok members) : v = .object members := by
  cases v <;> cases h
  rfl

theorem itemsOf_raises (v : Option Json) : Raises (itemsOf v) fun e => ¬e.IsUnblamed := by
  intro e he
  unfold itemsOf at he
  split at he
  case h_5 => cases he; simp [Fault.IsUnblamed, Fault.kind]
  all_goals contradiction

section

variable [Runtime]

/-! ### Values that are too much -/

-- A value that more is asked of than it can give, and the fault that comes of it.
inductive Overtaxes : Json → Fault → Prop
  | deep (h : ¬Runtime.describes v) : Overtaxes v .textTooDeep
  | infinite (negative : Bool) : Overtaxes (.float (.infinite negative)) .infiniteNumber

-- Such a value is inside of another one, or is all of it.
inductive Conceals (e : Fault) : Json → Prop
  | here (h : Overtaxes v e) : Conceals e v
  | item (hv : v ∈ items) (h : Conceals e v) : Conceals e (.list items)
  | member (hm : m ∈ members) (h : Conceals e m.2) : Conceals e (.object members)

theorem Overtaxes.fault_eq (h : Overtaxes v e) : e = .textTooDeep ∨ e = .infiniteNumber := by
  cases h
  case deep => exact .inl rfl
  case infinite => exact .inr rfl

theorem Conceals.fault_eq (h : Conceals e v) : e = .textTooDeep ∨ e = .infiniteNumber := by
  induction h
  case here h => exact h.fault_eq
  case item hi => exact hi
  case member hi => exact hi

-- In what a dialect reads there is only what the dialect has.
theorem Conceals.of_readBy (h : Conceals e v) (hv : v.ReadBy d n) (hn : n ≤ d.maxDepth) :
    (e = .textTooDeep ∧ Runtime.readDepth < d.maxDepth) ∨
      (e = .infiniteNumber ∧ d.allowsNonFinite) := by
  induction h generalizing n
  case here h =>
    cases h
    case deep v h =>
      have hd : ¬v.depth ≤ Runtime.readDepth := mt (Runtime.describes_of_depth_le v) h
      have := hv.depth_le hn
      exact .inl ⟨rfl, by omega⟩
    case infinite negative =>
      cases hv
      case scalar h => cases h with | float _ hf => exact .inr ⟨rfl, hf negative rfl⟩
  case item hm _ hi =>
    cases hv
    case scalar h => contradiction
    case list hn h => exact hi (h _ hm) hn
  case member hm _ hi =>
    cases hv
    case scalar h => contradiction
    case object hn h => exact hi (h _ hm) hn

/-! ### Values of records -/

theorem describedText_raises (v : Json) : Raises (describedText v) (Overtaxes v) := by
  intro e he
  unfold describedText at he
  split at he
  case isTrue => contradiction
  case isFalse h => cases he; exact .deep h

theorem textOf_raises (v : Option Json) : Raises (textOf v) fun e => ∃ u ∈ v, Overtaxes u e := by
  cases v
  case none => exact Raises.ok "" _
  case some v =>
    simp only [textOf]
    split
    case isTrue => exact Raises.ok "" _
    case isFalse => exact (describedText_raises v).mono fun _ h => ⟨v, rfl, h⟩

theorem anyText_raises (v : Option Json) : Raises (anyText v) fun e => ∃ u ∈ v, Overtaxes u e := by
  cases v
  case none => exact Raises.ok "" _
  case some v => exact (describedText_raises v).mono fun _ h => ⟨v, rfl, h⟩

theorem lineOf_raises (v : Option Json) : Raises (lineOf v) fun e => ∃ u ∈ v, Overtaxes u e := by
  intro e he
  obtain ⟨rfl, negative, rfl⟩ := lineOf_eq_error_iff.mp he
  exact ⟨_, rfl, .infinite negative⟩

/-! ### Records -/

theorem conceals_of_lookup {members : Members} (hv : v ∈ members.lookup k) (h : Conceals e v) :
    Conceals e (.object members) := by
  have ⟨before, after, hm, _⟩ := List.lookup_eq_some_iff.mp hv
  exact .member (m := (k, v)) (by simp [hm]) h

theorem conceals_of_overtaxes {members : Members} {k : String}
    (h : ∃ v ∈ members.lookup k, Overtaxes v e) : Conceals e (.object members) := by
  have ⟨_, hv, h⟩ := h
  exact conceals_of_lookup hv <| .here h

section

variable {members : Members}

theorem textOf_conceals (k : String) :
    Raises (textOf (members.lookup k)) (Conceals · (.object members)) :=
  (textOf_raises _).mono fun _ => conceals_of_overtaxes

theorem lineOf_conceals (k : String) :
    Raises (lineOf (members.lookup k)) (Conceals · (.object members)) :=
  (lineOf_raises _).mono fun _ => conceals_of_overtaxes

end

theorem stepTextOf_raises (members : Members) :
    Raises (stepTextOf members) (Conceals · (.object members)) := by
  refine (textOf_conceals _).bind fun _ _ => ?_
  split
  case isTrue => exact textOf_conceals _
  case isFalse => exact Raises.pure _ _

theorem of_site?_eq_some (h : site? members = .ok (some s)) :
    stepTextOf members = .ok s.text ∧ Text.isBlankText s.text = false ∧
      textOf (members.lookup "source_path") = .ok s.path ∧ groupOf members s.path = .ok s.group ∧
      lineOf (members.lookup "line") = .ok s.line := by
  obtain ⟨text, ht, h⟩ := bind_eq_ok_iff.mp h
  split at h
  case isTrue => cases h
  case isFalse hb =>
    simp only [bind_eq_ok_iff] at h
    obtain ⟨path, hp, group, hg, line, hl, h⟩ := h
    cases h
    exact ⟨ht, Bool.not_eq_true _ ▸ hb, hp, hg, hl⟩

theorem of_site?_eq_none (h : site? members = .ok none) :
    ∃ text, stepTextOf members = .ok text ∧ Text.isBlankText text := by
  obtain ⟨text, ht, h⟩ := bind_eq_ok_iff.mp h
  split at h
  case isTrue hb => exact ⟨text, ht, hb⟩
  case isFalse =>
    simp only [bind_eq_ok_iff] at h
    obtain ⟨_, _, _, _, _, _, h⟩ := h
    cases h

theorem site?_raises (members : Members) :
    Raises (site? members) (Conceals · (.object members)) := by
  refine (stepTextOf_raises members).bind fun _ _ => ?_
  split
  case isTrue => exact Raises.pure _ _
  case isFalse =>
    refine (textOf_conceals _).bind fun _ _ => ?_
    refine Raises.bind ?_ fun _ _ => ?_
    case refine_1 => exact (textOf_conceals _).bind fun _ _ => Raises.pure _ _
    case refine_2 => exact (lineOf_conceals _).bind fun _ _ => Raises.pure _ _

/-! ### Feature files -/

-- A fault of a value, if it is one that no record is blamed for.
def Stems (v : Json) (e : Fault) : Prop :=
  e.IsUnblamed → Conceals e v

-- Texts are never too much, so what is in an item is in the value that the item comes from.
theorem not_conceals_text (s : String) : ¬Conceals e (.text s) := by
  have hn : Runtime.describes (.text s) := Runtime.describes_of_depth_le _ <| Nat.zero_le _
  intro h
  cases h with | here h => cases h with | deep h => exact h hn

theorem conceals_of_itemsOf (h : itemsOf v = .ok items) (hi : i ∈ items) (hc : Conceals e i) :
    ∃ u ∈ v, Conceals e u := by
  unfold itemsOf at h
  split at h <;> cases h
  case h_1 => contradiction
  case h_2 => exact ⟨_, rfl, .item hi hc⟩
  case h_3 | h_4 =>
    have ⟨_, _, ht⟩ := List.mem_map.mp hi
    exact absurd (ht ▸ hc) <| not_conceals_text _

section

variable {members : Members}

theorem anyText_stems (k : String) :
    Raises (anyText (members.lookup k)) (Stems (.object members)) :=
  (anyText_raises _).mono fun _ h _ => conceals_of_overtaxes h

theorem lineOf_stems (k : String) :
    Raises (lineOf (members.lookup k)) (Stems (.object members)) :=
  (lineOf_conceals k).mono fun _ h _ => h

theorem itemsOf_stems (k : String) :
    Raises (itemsOf (members.lookup k)) (Stems (.object members)) :=
  (itemsOf_raises _).mono fun _ h hu => absurd hu h

theorem mapM_stems {f : Json → Except Fault α} (hf : ∀ i, Raises (f i) (Stems i))
    (h : itemsOf (members.lookup k) = .ok items) :
    Raises (items.mapM f) (Stems (.object members)) := by
  refine Raises.mapM fun i hi => (hf i).mono fun e he hu => ?_
  have ⟨_, hv, hc⟩ := conceals_of_itemsOf h hi <| he hu
  exact conceals_of_lookup hv hc

end

theorem membersOf_stems {f : Members → Except Fault α}
    (hf : ∀ members, Raises (f members) (Stems (.object members))) (v : Json) :
    Raises (membersOf v >>= f) (Stems v) := by
  refine (membersOf_raises v).mono (fun _ h hu => absurd hu h) |>.bind fun members hm => ?_
  exact eq_object_of_membersOf hm ▸ hf members

theorem scenarioOf_stems (v : Json) : Raises (scenarioOf v) (Stems v) := by
  refine membersOf_stems (fun members => ?_) v
  refine (anyText_stems _).bind fun _ _ => ?_
  exact (lineOf_stems _).bind fun _ _ => Raises.pure _ _

theorem stepOf_stems (v : Json) : Raises (stepOf v) (Stems v) := by
  refine membersOf_stems (fun members => ?_) v
  refine (anyText_stems _).bind fun _ _ => ?_
  exact (lineOf_stems _).bind fun _ _ => Raises.pure _ _

theorem rowCountOf_stems (v : Json) : Raises (rowCountOf v) (Stems v) := by
  refine membersOf_stems (fun members => ?_) v
  split
  case h_1 => exact Raises.pure _ _
  case h_2 u hu =>
    split
    case isTrue => exact Raises.pure _ _
    case isFalse =>
      refine (toInteger_raises u).mono (fun e h hk => ?_) |>.bind fun _ _ => Raises.pure _ _
      obtain ⟨rfl, negative, rfl⟩ := h hk
      exact conceals_of_lookup hu <| .here <| .infinite negative

theorem outlineOf_stems (v : Json) : Raises (outlineOf v) (Stems v) := by
  refine membersOf_stems (fun members => ?_) v
  refine (anyText_stems _).bind fun _ _ => ?_
  refine (lineOf_stems _).bind fun _ _ => ?_
  refine (itemsOf_stems _).bind fun _ he => ?_
  exact (mapM_stems rowCountOf_stems he).bind fun _ _ => Raises.pure _ _

theorem feature_stems (members : Members) :
    Raises (feature members) (Stems (.object members)) := by
  have missing :
      Raises (.error .pathMissing : Except Fault FeatureFile) (Stems (.object members)) :=
    Raises.error <| by simp [Stems, Fault.IsUnblamed, Fault.kind]
  unfold feature
  split
  case h_2 => exact missing
  case h_1 path _ =>
    split
    case isTrue => exact missing
    case isFalse =>
      refine (itemsOf_stems _).bind fun _ hs => ?_
      refine (mapM_stems scenarioOf_stems hs).bind fun _ _ => ?_
      refine (itemsOf_stems _).bind fun _ ho => ?_
      refine (mapM_stems outlineOf_stems ho).bind fun _ _ => ?_
      refine (itemsOf_stems _).bind fun _ ht => ?_
      refine (mapM_stems stepOf_stems ht).bind fun _ _ => ?_
      exact Raises.pure _ _

end

/-! ### Lines -/

-- The object on a line. One that holds another value is as good as malformed.
def objectOn (d : Dialect) (l : List UInt8) : Except ReadFault Members :=
  match decode d ⟨l.toArray⟩ with
  | .ok (.object members) => .ok members
  | .ok _ => .error .malformed
  | .error e => .error e

theorem objectOn_eq_ok_iff :
    objectOn d l = .ok members ↔ decode d ⟨l.toArray⟩ = .ok (.object members) := by
  unfold objectOn
  split
  case h_1 h => simp [h]
  case h_2 v hv h => simpa [h] using fun he => hv members he
  case h_3 h => simp [h]

-- The lines that are not blank, without the blanks at their ends.
def contents (bytes : ByteArray) : List (List UInt8) :=
  ((lines bytes.toList).map trimLine).filter (!·.isEmpty)

-- All that a fault of a line says but for the place.
def placeless : Fault → ReadFault
  | .nesting c => .tooDeep c
  | _ => .malformed

theorem readLine_mapError (d : Dialect) (path : String) (number : Nat) (l : List UInt8) :
    (readLine d path number l).mapError placeless = objectOn d l := by
  unfold readLine objectOn
  cases decode d ⟨l.toArray⟩
  case ok v => cases v <;> rfl
  case error e => cases e <;> rfl

theorem readLines_mapError (d : Dialect) (path : String) (number : Nat) (ls : List (List UInt8)) :
    (readLines d path number ls).mapError placeless =
      ((ls.map trimLine).filter (!·.isEmpty)).mapM (objectOn d) := by
  induction ls generalizing number
  case nil => rfl
  case cons l ls hi =>
    rw [readLines, List.map_cons, List.filter_cons]
    split
    case isTrue hl => simp [hl, hi]
    case isFalse hl =>
      simp only [hl, Bool.not_false, if_true, List.mapM_cons, ← readLine_mapError d path number,
        ← hi (number + 1)]
      cases readLine d path number (trimLine l) <;> cases readLines d path (number + 1) ls <;> rfl

theorem readLines_raises (d : Dialect) (path : String) (number : Nat) (ls : List (List UInt8)) :
    Raises (readLines d path number ls) fun e => e.kind = .invalidValue ∨ ∃ c, e = .nesting c := by
  induction ls generalizing number <;> simp only [readLines]
  case nil => exact Raises.ok _ _
  case cons l ls hi =>
    split
    case isTrue => exact hi _
    case isFalse =>
      refine Raises.bind ?_ fun _ _ => (hi _).bind fun _ _ => Raises.pure _ _
      intro e he
      unfold readLine at he
      split at he
      case h_1 => contradiction
      case h_2 => cases he; exact .inl rfl
      case h_3 e' _ =>
        cases he
        cases e'
        case malformed => exact .inl rfl
        case tooDeep => exact .inr ⟨_, rfl⟩

theorem exists_read_of_loadLines (h : loadLines d t p = .ok records) :
    ∃ bytes, t.read p = .ok bytes := by
  obtain ⟨bytes, hb, _⟩ := bind_eq_ok_iff.mp h
  exact ⟨bytes, mapError_eq_ok_iff.mp hb⟩

-- A listing has the sites of all records that describe one.
theorem definitions_eq_ok_iff [Runtime] : definitions d t p = .ok sites ↔
    ∃ records found, loadLines d t p = .ok records ∧ records.mapM site? = .ok found ∧
      found.filterMap id = sites := by
  simp [definitions, bind_eq_ok_iff, pure, Except.pure]

section

variable {d : Dialect} {t : FileTree} {p : Path} (hr : t.read p = .ok bytes)

include hr

theorem loadLines_eq : loadLines d t p = readLines d p.text 1 (lines bytes.toList) := by
  rw [loadLines, hr]
  rfl

theorem loadLines_eq_ok_iff :
    loadLines d t p = .ok records ↔ (contents bytes).mapM (objectOn d) = .ok records := by
  rw [loadLines_eq hr, contents, ← readLines_mapError d p.text 1, mapError_eq_ok_iff]

theorem decode_of_mem_loadLines (h : loadLines d t p = .ok records) (hm : members ∈ records) :
    ∃ l : List UInt8, decode d ⟨l.toArray⟩ = .ok (.object members) := by
  have ⟨l, _, hl⟩ := exists_of_mem_mapM ((loadLines_eq_ok_iff hr).mp h) hm
  exact ⟨l, objectOn_eq_ok_iff.mp hl⟩

-- What a file of records fails with, other than that it is malformed.
theorem loadLines_eq_error_iff : loadLines d t p = .error e ∧ e.kind ≠ .invalidValue ↔
    ∃ c, e = .nesting c ∧ FailsFirst (objectOn d) (contents bytes) (.tooDeep c) := by
  rw [loadLines_eq hr]
  simp only [← mapM_eq_error_iff, contents, ← readLines_mapError d p.text 1, mapError_eq_error_iff]
  constructor
  case mp =>
    intro ⟨h, hk⟩
    rcases readLines_raises _ _ _ _ _ h with he | ⟨c, rfl⟩
    case inl => exact absurd he hk
    case inr => exact ⟨c, rfl, _, h, rfl⟩
  case mpr =>
    rintro ⟨c, rfl, e, h, he⟩
    cases e <;> cases he
    exact ⟨h, nofun⟩

end

/-! ### What escapes -/

-- What a listing fails with that is not the fault of a malformed file. A line goes too deep before
-- a line is found to be malformed, or too much is asked of a value in the first record that fails.
inductive Escapes (d : Dialect) (bytes : ByteArray) (f : Members → Except Fault α) : Fault → Prop
  | line (h : FailsFirst (objectOn d) (contents bytes) (.tooDeep c)) :
    Escapes d bytes f (.nesting c)
  | record (hs : (contents bytes).mapM (objectOn d) = .ok records) (hf : FailsFirst f records e)
    (he : e = .textTooDeep ∨ e = .infiniteNumber) : Escapes d bytes f e

theorem blame_iff : blame path index e' = e ∧ e.kind ≠ .invalidValue ↔
    e' = e ∧ e.IsUnblamed := by
  unfold blame
  split
  case isTrue h =>
    refine and_congr_right fun he => iff_of_true ?_ (he ▸ h)
    rw [← he]
    rcases h with h | h <;> simp [h]
  case isFalse h =>
    refine iff_of_false ?_ fun ⟨he, hu⟩ => h <| he ▸ hu
    rintro ⟨rfl, hk⟩
    exact hk rfl

section

variable [Runtime]

theorem isUnblamed_iff {members : Members} (h : feature members = .error e) :
    e.IsUnblamed ↔ e = .textTooDeep ∨ e = .infiniteNumber := by
  constructor
  case mp => exact fun hu => (feature_stems members e h hu).fault_eq
  case mpr =>
    rintro (rfl | rfl)
    case inl => exact .inr rfl
    case inr => exact .inl rfl

theorem featuresFrom_eq_error_iff {path : String} {index : Nat} {records : List Members} :
    featuresFrom path index records = .error e ∧ e.kind ≠ .invalidValue ↔
      FailsFirst feature records e ∧ (e = .textTooDeep ∨ e = .infiniteNumber) := by
  induction records generalizing index
  case nil => simp [featuresFrom, not_failsFirst_nil]
  case cons members rest hi =>
    rw [featuresFrom, failsFirst_cons_iff]
    cases hf : feature members
    case error e' =>
      simp only [Except.mapError, bind, Except.bind, Except.error.injEq, reduceCtorEq,
        exists_false, false_and, or_false]
      rw [blame_iff]
      refine and_congr_right fun he => ?_
      exact isUnblamed_iff <| he ▸ hf
    case ok f =>
      have hb : (∃ g, (.ok f : Except Fault FeatureFile) = .ok g) := ⟨f, rfl⟩
      simp only [reduceCtorEq, hb, true_and, false_or, ← @hi (index + 1)]
      cases featuresFrom path (index + 1) rest <;>
        simp [Except.mapError, bind, Except.bind, pure, Except.pure]

section

variable {d : Dialect} {t : FileTree} {p : Path} (hr : t.read p = .ok bytes)

include hr

theorem definitions_eq_error_iff :
    definitions d t p = .error e ∧ e.kind ≠ .invalidValue ↔ Escapes d bytes site? e := by
  have hd : definitions d t p = .error e ↔ loadLines d t p = .error e ∨
      ∃ records, loadLines d t p = .ok records ∧ FailsFirst site? records e := by
    simp [definitions, bind_eq_error_iff, mapM_eq_error_iff, pure, Except.pure]
  rw [hd, or_and_right, loadLines_eq_error_iff hr]
  simp only [loadLines_eq_ok_iff hr]
  constructor
  case mp =>
    rintro (⟨c, rfl, h⟩ | ⟨⟨records, hs, hf⟩, _⟩)
    case inl => exact .line h
    case inr =>
      have ⟨_, members, _, _, _, hm⟩ := hf
      exact .record hs hf (site?_raises members e hm).fault_eq
  case mpr =>
    rintro (h | ⟨hs, hf, he⟩)
    case line c => exact .inl ⟨c, rfl, h⟩
    case record records =>
      refine .inr ⟨⟨records, hs, hf⟩, ?_⟩
      rcases he with rfl | rfl <;> nofun

theorem features_eq_error_iff :
    features d t (some p) = .error e ∧ e.kind ≠ .invalidValue ↔ Escapes d bytes feature e := by
  simp only [features, bind_eq_error_iff, or_and_right, loadLines_eq_error_iff hr,
    loadLines_eq_ok_iff hr]
  constructor
  case mp =>
    rintro (⟨c, rfl, h⟩ | ⟨⟨records, hs, hf⟩, hk⟩)
    case inl => exact .line h
    case inr =>
      have ⟨hf, he⟩ := featuresFrom_eq_error_iff.mp ⟨hf, hk⟩
      exact .record hs hf he
  case mpr =>
    rintro (h | ⟨hs, hf, he⟩)
    case line c => exact .inl ⟨c, rfl, h⟩
    case record records =>
      have ⟨h, hk⟩ : featuresFrom p.text 1 records = .error e ∧ e.kind ≠ .invalidValue :=
        featuresFrom_eq_error_iff.mpr ⟨hf, he⟩
      exact .inr ⟨⟨records, hs, h⟩, hk⟩

end

-- A fault that escapes comes of too deep a line, or of a value that stands in some line.
theorem Escapes.cause {d : Dialect} {f : Members → Except Fault α}
    (hf : ∀ members, Raises (f members) (Stems (.object members))) (h : Escapes d bytes f e) :
    (d.reportsDepth ∧ ∃ c, e = .nesting c) ∨
      ∃ l ∈ contents bytes, ∃ members, decode d ⟨l.toArray⟩ = .ok (.object members) ∧
        Conceals e (.object members) := by
  cases h
  case line c h =>
    obtain ⟨_, l, _, hl, _, h⟩ := h
    refine .inl ⟨?_, c, rfl⟩
    unfold objectOn at h
    split at h
    case h_1 | h_2 => cases h
    case h_3 hd => cases h; exact decode_raises _ _ _ hd c rfl
  case record records hs hm he =>
    obtain ⟨before, members, after, rfl, _, hm⟩ := hm
    have hu : e.IsUnblamed := by rcases he with rfl | rfl <;> simp [Fault.IsUnblamed, Fault.kind]
    have ⟨l, hl, h⟩ := exists_of_mem_mapM hs <| List.mem_append_right before List.mem_cons_self
    exact .inr ⟨l, hl, members, objectOn_eq_ok_iff.mp h, hf members e hm hu⟩

-- A listing returns or has a malformed file for its fault, unless something escapes it. The lenient
-- dialect has lines that are too deep and numbers that are infinite, and the strict one has texts
-- that are too deep. A line number is read from any value that is not infinite.
theorem listings_escape_iff (hd : d ∈ Dialect.all) (hr : t.read p = .ok bytes) :
    (∀ e, definitions d t p = .error e ∧ e.kind ≠ .invalidValue ↔ Escapes d bytes site? e) ∧
    (∀ e, features d t (some p) = .error e ∧ e.kind ≠ .invalidValue ↔
      Escapes d bytes feature e) ∧
    (∀ e, Escapes d bytes site? e ∨ Escapes d bytes feature e →
      (d = .lenient ∧ ∃ c, e = .nesting c) ∨
      ((d = .strict ∧ e = .textTooDeep ∨ d = .lenient ∧ e = .infiniteNumber) ∧
        ∃ l ∈ contents bytes, ∃ members, decode d ⟨l.toArray⟩ = .ok (.object members) ∧
          Conceals e (.object members))) ∧
    ∀ v, (∃ n, lineOf v = .ok n ∧ 1 ≤ n) ↔ ∀ negative, v ≠ some (.float (.infinite negative)) := by
  refine ⟨fun _ => definitions_eq_error_iff hr, fun _ => features_eq_error_iff hr, ?_, lineOf_iff⟩
  intro e h
  have hs (members : Members) : Raises (site? members) (Stems (.object members)) :=
    (site?_raises members).mono fun _ hc _ => hc
  rcases h.elim (Escapes.cause hs) (Escapes.cause feature_stems) with
    ⟨hl, hc⟩ | ⟨l, hl, members, hv, hc⟩
  case inl =>
    refine .inl ⟨?_, hc⟩
    rcases Dialect.mem_all_iff.mp hd with rfl | rfl
    case inl => contradiction
    case inr => rfl
  case inr =>
    refine .inr ⟨?_, l, hl, members, hv, hc⟩
    have hd' := hc.of_readBy (decode_readBy hv) (Nat.zero_le _)
    rcases Dialect.mem_all_iff.mp hd with rfl | rfl <;> rcases hd' with ⟨rfl, ho⟩ | ⟨rfl, ho⟩
    case inl.inl => exact .inl ⟨rfl, rfl⟩
    case inl.inr => contradiction
    case inr.inl => exact absurd ho <| Nat.lt_irrefl _
    case inr.inr => exact .inr ⟨rfl, rfl⟩

end

def infiniteTree : FileTree :=
  ⟨[(⟨"", ["d"]⟩, .file "\x7b\"text\": \"a\", \"line\": Infinity\x7d".toUTF8)]⟩

theorem definitions_infiniteTree :
    definitions .lenient infiniteTree ⟨"", ["d"]⟩ = .error .infiniteNumber := by
  decide +kernel

theorem listings_escape_infinite :
    ∃ bytes, infiniteTree.read ⟨"", ["d"]⟩ = .ok bytes ∧ .lenient ∈ Dialect.all ∧
      Escapes .lenient bytes site? .infiniteNumber := by
  refine ⟨_, rfl, Dialect.lenient_mem_all, ?_⟩
  have h := listings_escape_iff Dialect.lenient_mem_all
    (t := infiniteTree) (p := ⟨"", ["d"]⟩) rfl
  exact (h.left _).mp ⟨definitions_infiniteTree, by decide⟩

-- Infinity is no line number, and no malformed file either.
theorem not_forall_listings_settle :
    (¬∀ d ∈ Dialect.all, ∀ t p bytes, t.read p = .ok bytes →
      ∀ e, definitions d t p = .error e → e.kind = .invalidValue) ∧
    ¬∀ v, ∃ n, lineOf v = .ok n ∧ 1 ≤ n := by
  constructor
  case left =>
    intro h
    have := h _ Dialect.lenient_mem_all infiniteTree _ _ rfl _ definitions_infiniteTree
    contradiction
  case right =>
    intro h
    obtain ⟨n, hn, _⟩ := h <| some <| .float <| .infinite false
    contradiction

end Extract

end StepCatalog
