import Mathlib
import StepCatalog.Json.Encoding

namespace StepCatalog.Json

/-! ### The bytes of a text -/

theorem toList_loop (bytes : ByteArray) (i : Nat) (read : List UInt8) :
    ByteArray.toList.loop bytes i read = read.reverse ++ bytes.data.toList.drop i := by
  -- The loop goes up to the end, so the induction is on what is left of the bytes.
  induction h : bytes.size - i generalizing i read
  case zero =>
    have hs : bytes.data.toList.drop i = [] := List.drop_eq_nil_of_le (by simp; omega)
    rw [ByteArray.toList.loop, if_neg (by omega), hs, List.append_nil]
  case succ n hi =>
    have hl : i < bytes.data.toList.length := by simp; omega
    have hg : bytes.get! i = bytes.data.toList[i] := by
      simp only [ByteArray.get!, Array.getElem_toList]
      exact getElem!_pos bytes.data i (by simpa using hl)
    rw [ByteArray.toList.loop, if_pos (by omega), hi _ _ (by omega), hg,
      List.drop_eq_getElem_cons hl]
    simp

theorem toList_eq (bytes : ByteArray) : bytes.toList = bytes.data.toList :=
  toList_loop bytes 0 []

theorem toList_toUTF8 (s : String) : s.toUTF8.toList = s.toList.flatMap String.utf8EncodeChar := by
  rw [toList_eq, String.toUTF8, ← String.utf8Encode_toList, List.utf8Encode,
    List.toList_data_toByteArray]

theorem toUTF8_of_fromUTF8? {bytes : ByteArray} (h : String.fromUTF8? bytes = some s) :
    s.toUTF8 = bytes := by
  rw [String.fromUTF8?] at h
  split at h
  case isTrue => cases h; rfl
  case isFalse => contradiction

theorem fromUTF8?_toUTF8 (s : String) : String.fromUTF8? s.toUTF8 = some s := by
  simp only [String.fromUTF8?, String.toUTF8_eq_toByteArray, dif_pos s.isValidUTF8]
  rfl

theorem utf8EncodeChar_of_ascii {c : Char} (h : c.toNat < 0x80) :
    String.utf8EncodeChar c = [UInt8.ofNat c.toNat] := by
  have hv : c.val.toNat ≤ 127 := Nat.le_of_lt_succ h
  simp only [String.utf8EncodeChar, if_pos hv]
  rfl

theorem ofNat_ne (hn : n < 256) (hb : n ≠ b.toNat) : UInt8.ofNat n ≠ b := by
  rintro rfl
  exact hb (UInt8.toNat_ofNat_of_lt' hn).symm

theorem ofNat_ne_zero (hz : 0 < n) (hn : n < 256) : UInt8.ofNat n ≠ 0 :=
  ofNat_ne hn (Nat.ne_of_gt hz)

-- Only the null character has a zero among its bytes.
theorem zero_notMem_utf8EncodeChar {c : Char} (h : c ≠ '\x00') : 0 ∉ String.utf8EncodeChar c := by
  have hc : c.val.toNat ≠ 0 := fun hc => h <| Char.toNat_inj.mp hc
  intro hm
  simp only [String.utf8EncodeChar] at hm
  split at hm
  case isTrue => exact ofNat_ne_zero (by omega) (by omega) (List.mem_singleton.mp hm).symm
  case isFalse =>
    split at hm
    case isTrue =>
      simp only [List.mem_cons, List.not_mem_nil, or_false] at hm
      rcases hm with hm | hm <;> exact ofNat_ne_zero (by omega) (by omega) hm.symm
    case isFalse =>
      split at hm <;> simp only [List.mem_cons, List.not_mem_nil, or_false] at hm
      case isTrue =>
        rcases hm with hm | hm | hm <;> exact ofNat_ne_zero (by omega) (by omega) hm.symm
      case isFalse =>
        rcases hm with hm | hm | hm | hm <;> exact ofNat_ne_zero (by omega) (by omega) hm.symm

theorem zero_notMem_toUTF8 {s : String} (h : '\x00' ∉ s.toList) : 0 ∉ s.toUTF8.toList := by
  simp only [toList_toUTF8, List.mem_flatMap, not_exists, not_and]
  intro c hc
  exact zero_notMem_utf8EncodeChar fun he => h (he ▸ hc)

/-! ### Telling the encoding -/

namespace Encoding

theorem ofMark?_of_ascii {b : UInt8} (hz : b ≠ 0) (ha : b < 0x80) (bs : List UInt8) :
    ofMark? (b :: bs) = none := by
  unfold ofMark?
  split
  case h_6 => rfl
  all_goals simp_all

theorem ofZeros_of_notMem {bytes : List UInt8} (h : 0 ∉ bytes) : ofZeros bytes = utf8 := by
  unfold ofZeros
  split <;> simp_all [eq_comm]

end Encoding

/-! ### Halves of surrogate pairs -/

variable {substitute : List UInt8}

theorem replaceSurrogates_cons (h : a ≠ 0xed) (bytes : List UInt8) :
    replaceSurrogates substitute (a :: bytes) = a :: replaceSurrogates substitute bytes := by
  match bytes with
  | [] | [_] => rfl
  | _ :: _ :: _ =>
    rw [replaceSurrogates, if_neg]
    simp [isSurrogate, h]

theorem isSurrogate_eq_false (hv : v ≤ 0xffff) (h : v < 0xd800 ∨ 0xdfff < v) (c : UInt8) :
    isSurrogate (UInt8.ofNat (v / 4096 % 16 + 224)) (UInt8.ofNat (v / 64 % 64 + 128)) c =
      false := by
  rw [isSurrogate]
  by_cases he : v / 4096 % 16 + 224 = 0xed
  case neg =>
    have ha := beq_eq_false_iff_ne.mpr <| ofNat_ne (b := 0xed) (by omega) he
    simp only [ha, Bool.false_and]
  case pos =>
    have hb : v / 64 % 64 + 128 < 256 := by omega
    have hl : ¬0xa0 ≤ UInt8.ofNat (v / 64 % 64 + 128) := by
      rw [UInt8.le_iff_toNat_le, UInt8.toNat_ofNat_of_lt' hb]
      show ¬160 ≤ _
      omega
    simp only [hl, decide_false, Bool.and_false, Bool.false_and]

-- No character is half of a surrogate pair.
theorem replaceSurrogates_append (c : Char) (bytes : List UInt8) :
    replaceSurrogates substitute (String.utf8EncodeChar c ++ bytes) =
      String.utf8EncodeChar c ++ replaceSurrogates substitute bytes := by
  have hb (n : Nat) (bs : List UInt8) (hn : n < 256) (hs : n ≠ 0xed) :
      replaceSurrogates substitute (UInt8.ofNat n :: bs) =
        UInt8.ofNat n :: replaceSurrogates substitute bs :=
    replaceSurrogates_cons (ofNat_ne hn hs) bs
  have hc : c.val.toNat < 0xd800 ∨ 0xdfff < c.val.toNat :=
    c.valid.imp id fun h => h.left
  simp only [String.utf8EncodeChar]
  split
  case isTrue =>
    rw [List.singleton_append, hb _ _ (by omega) (by omega)]
    rfl
  case isFalse =>
    split
    case isTrue =>
      simp only [List.cons_append, List.nil_append]
      rw [hb _ _ (by omega) (by omega), hb _ _ (by omega) (by omega)]
    case isFalse =>
      split
      case isFalse =>
        simp only [List.cons_append, List.nil_append]
        rw [hb _ _ (by omega) (by omega), hb _ _ (by omega) (by omega),
          hb _ _ (by omega) (by omega), hb _ _ (by omega) (by omega)]
      case isTrue =>
        simp only [List.cons_append, List.nil_append]
        rw [replaceSurrogates, isSurrogate_eq_false (by omega) hc, if_neg Bool.false_ne_true,
          hb _ _ (by omega) (by omega), hb _ _ (by omega) (by omega)]

theorem replaceSurrogates_toUTF8 (s : String) :
    replaceSurrogates substitute s.toUTF8.toList = s.toUTF8.toList := by
  rw [toList_toUTF8]
  induction s.toList
  case nil => rfl
  case cons c cs hi => rw [List.flatMap_cons, replaceSurrogates_append, hi]

/-! ### Texts -/

-- A text without null characters that begins in ASCII is taken for what it is, whether or not other
-- encodings are looked for.
theorem decodeText?_toUTF8 (d : Dialect) {s : String} (hz : '\x00' ∉ s.toList)
    (ha : ∀ c ∈ s.toList.head?, c.toNat < 0x80) : decodeText? d s.toUTF8 = some s.toList := by
  have hu : (String.fromUTF8? s.toUTF8).map String.toList = some s.toList := by
    rw [fromUTF8?_toUTF8]
    rfl
  have hb := zero_notMem_toUTF8 hz
  have hd : Encoding.utf8.decode? d s.toUTF8.toList = some s.toList := by
    have hr : (d.loneSurrogate.elim s.toUTF8.toList fun c =>
        replaceSurrogates (String.utf8EncodeChar c) s.toUTF8.toList) = s.toUTF8.toList := by
      cases d.loneSurrogate
      case none => rfl
      case some => exact replaceSurrogates_toUTF8 s
    simp only [Encoding.decode?, hr]
    simpa [toList_eq] using hu
  have hm : Encoding.ofMark? s.toUTF8.toList = none := by
    rw [toList_toUTF8] at hb ⊢
    cases hs : s.toList
    case nil => rfl
    case cons c cs =>
      have hc := ha c (by simp [hs])
      rw [hs, List.flatMap_cons, utf8EncodeChar_of_ascii hc] at hb
      rw [List.flatMap_cons, utf8EncodeChar_of_ascii hc]
      refine Encoding.ofMark?_of_ascii ?_ ?_ _
      case refine_1 => rintro h; simp [h] at hb
      case refine_2 => simp [UInt8.lt_iff_toNat_lt]; omega
  rw [decodeText?]
  split
  case isTrue => simp only [hm, Encoding.ofZeros_of_notMem hb, hd]
  case isFalse => exact hu

end StepCatalog.Json
