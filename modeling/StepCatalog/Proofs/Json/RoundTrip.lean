import Mathlib
import StepCatalog.Proofs.FileTree
import StepCatalog.Proofs.Json.Dialects
import StepCatalog.Proofs.Json.Order
import StepCatalog.Settings

namespace StepCatalog.Json

variable {v : Json}

/-! ### Reading from tokens -/

namespace Reader

variable {d : Dialect} {stack : List Open}

-- A document is read from its tokens where a value may stand, unless it is nested too deep there.
def Rereads (d : Dialect) (v : Json) : Prop :=
  ∀ stack e rest, e = .value ∨ e = .firstItem → stack.length + v.depth ≤ d.maxDepth →
    run d ⟨stack, e⟩ (tokensOf v ++ rest) = run d (complete v stack) rest

theorem rereads_scalar (ht : tokensOf v = [.scalar v]) : Rereads d v := by
  rintro stack e rest (rfl | rfl) _ <;> rw [ht] <;> rfl

theorem run_opening (hn : stack.length < d.maxDepth) (he : e = .value ∨ e = .firstItem) :
    run d ⟨stack, e⟩ (.listStart :: rest) = run d ⟨.list [] :: stack, .firstItem⟩ rest ∧
    run d ⟨stack, e⟩ (.objectStart :: rest) = run d ⟨.object [] "" :: stack, .firstKey⟩ rest := by
  have hd : ¬d.maxDepth ≤ stack.length := Nat.not_le.mpr hn
  rcases he with rfl | rfl <;> simp [run, step, readValue, openNew, hd]

theorem run_itemsTokens (h : ∀ v ∈ items, Rereads d v)
    (hn : ∀ v ∈ items, stack.length + 1 + v.depth ≤ d.maxDepth) :
    run d ⟨.list acc :: stack, .separator⟩ (itemsTokens items ++ (.listEnd :: rest)) =
      run d (complete (.list (acc.reverse ++ items)) stack) rest := by
  induction items generalizing acc
  case nil => simp [itemsTokens, run, step, close]
  case cons v items hi =>
    obtain ⟨hv, h⟩ := List.forall_mem_cons.mp h
    obtain ⟨hs, hn⟩ := List.forall_mem_cons.mp hn
    have hc (rest) : run d ⟨.list acc :: stack, .separator⟩ (.comma :: rest) =
        run d ⟨.list acc :: stack, .value⟩ rest := rfl
    rw [itemsTokens, List.cons_append, List.cons_append, List.append_assoc, hc,
      hv (.list acc :: stack) _ _ (.inl rfl) hs, complete, hi h hn, List.reverse_cons,
      List.append_assoc]
    rfl

theorem put_eq_append {members : Members} (h : k ∉ members.map Prod.fst) :
    put k v members = members ++ [(k, v)] := by
  induction members
  case nil => rfl
  case cons m members hi =>
    simp only [List.map_cons, List.mem_cons, not_or] at h
    rw [put, if_neg (Ne.symm h.left), hi h.right, List.cons_append]

theorem run_membersTokens (h : ∀ m ∈ members, Rereads d m.2)
    (hk : ((acc ++ members).map Prod.fst).Nodup)
    (hn : ∀ m ∈ members, stack.length + 1 + m.2.depth ≤ d.maxDepth) :
    run d ⟨.object acc k :: stack, .separator⟩ (membersTokens members ++ (.objectEnd :: rest)) =
      run d (complete (.object (acc ++ members)) stack) rest := by
  induction members generalizing acc k
  case nil => simp [membersTokens, run, step, close]
  case cons m members hi =>
    obtain ⟨hv, h⟩ := List.forall_mem_cons.mp h
    obtain ⟨hs, hn⟩ := List.forall_mem_cons.mp hn
    have hc (rest) : run d ⟨.object acc k :: stack, .separator⟩
        (.comma :: .text m.1 :: .colon :: rest) =
          run d ⟨.object acc m.1 :: stack, .value⟩ rest := rfl
    have hm : m.1 ∉ acc.map Prod.fst := by
      rw [List.map_append, List.map_cons, List.nodup_middle, List.nodup_cons] at hk
      exact fun hm => hk.left <| List.mem_append_left _ hm
    rw [List.append_cons] at hk
    rw [membersTokens, List.cons_append, List.cons_append, List.cons_append, List.cons_append,
      List.cons_append, List.cons_append, List.append_assoc, hc,
      hv (.object acc m.1 :: stack) _ _ (.inl rfl) hs, complete, put_eq_append hm, hi h hk hn,
      ← List.append_cons]

theorem rereads_list (h : ∀ v ∈ items, Rereads d v) : Rereads d (.list items) := by
  intro stack e rest he hn
  have hi : ∀ v ∈ items, stack.length + 1 + v.depth ≤ d.maxDepth := by
    intro v hv
    have := depth_lt_of_mem_items hv
    omega
  have hl : stack.length < d.maxDepth := by
    rw [depth] at hn
    omega
  have hs (rest) : run d ⟨stack, e⟩ (.listStart :: rest) =
      run d ⟨.list [] :: stack, .firstItem⟩ rest := (run_opening hl he).left
  cases items
  case nil => exact hs _
  case cons v items =>
    obtain ⟨hv, h⟩ := List.forall_mem_cons.mp h
    obtain ⟨hd, hi⟩ := List.forall_mem_cons.mp hi
    simp only [tokensOf, List.cons_append, List.append_assoc, hs, List.nil_append,
      hv (.list [] :: stack) _ _ (.inr rfl) hd]
    exact run_itemsTokens h hi

theorem rereads_object (hk : (members.map Prod.fst).Nodup) (h : ∀ m ∈ members, Rereads d m.2) :
    Rereads d (.object members) := by
  intro stack e rest he hn
  have hi : ∀ m ∈ members, stack.length + 1 + m.2.depth ≤ d.maxDepth := by
    intro m hm
    have := depth_lt_of_mem_members hm
    omega
  have hl : stack.length < d.maxDepth := by
    rw [depth] at hn
    omega
  have hs (rest) : run d ⟨stack, e⟩ (.objectStart :: rest) =
      run d ⟨.object [] "" :: stack, .firstKey⟩ rest := (run_opening hl he).right
  cases members
  case nil => exact hs _
  case cons m members =>
    obtain ⟨hv, h⟩ := List.forall_mem_cons.mp h
    obtain ⟨hd, hi⟩ := List.forall_mem_cons.mp hi
    have hc (rest) : run d ⟨.object [] "" :: stack, .firstKey⟩ (.text m.1 :: .colon :: rest) =
        run d ⟨.object [] m.1 :: stack, .value⟩ rest := rfl
    simp only [tokensOf, List.cons_append, List.append_assoc, hs, hc, List.nil_append,
      hv (.object [] m.1 :: stack) _ _ (.inl rfl) hd]
    exact run_membersTokens h hk hi

theorem rereads_of_isPlain (d : Dialect) (h : v.IsPlain) : Rereads d v := by
  induction h
  case null | bool | int => exact rereads_scalar rfl
  case text => rintro stack e rest (rfl | rfl) _ <;> rfl
  case list hi => exact rereads_list hi
  case object hk _ hi => exact rereads_object hk hi

end Reader

/-! ### Both dialects -/

section

variable [Runtime]

def Dialect.all : List Dialect := [.strict, .lenient]

theorem Dialect.mem_all_iff {d : Dialect} : d ∈ Dialect.all ↔ d = .strict ∨ d = .lenient := by
  simp [Dialect.all]

theorem Dialect.strict_mem_all : Dialect.strict ∈ Dialect.all :=
  mem_all_iff.mpr <| .inl rfl

theorem Dialect.lenient_mem_all : Dialect.lenient ∈ Dialect.all :=
  mem_all_iff.mpr <| .inr rfl

-- A dialect that writes and reads plain documents.
structure Dialect.Handles (d : Dialect) : Prop where
  holds : ∀ n, Dialect.strict.holds n → d.holds n
  reads : plainDepth ≤ d.maxDepth
  writes : ∀ n ∈ d.maxWrittenDepth, plainDepth ≤ n

theorem Dialect.handles_of_mem (h : d ∈ Dialect.all) : d.Handles := by
  rcases mem_all_iff.mp h with rfl | rfl
  case inl => exact ⟨fun _ => id, by decide, by decide⟩
  case inr => exact ⟨fun _ _ => rfl, Runtime.plainDepth_le_readDepth, by simp [Dialect.lenient]⟩

theorem Dialect.lenient_ne_strict : Dialect.lenient ≠ Dialect.strict :=
  nofun

end

variable {d d' : Dialect}

theorem depthFault?_eq_none (hd : d.Handles) (hn : n < plainDepth) : depthFault? d n = none := by
  have hw : d.maxWrittenDepth.any (fun m => m ≤ n) = false := by
    cases hm : d.maxWrittenDepth
    case none => rfl
    case some m =>
      have := hd.writes m hm
      simp only [Option.any_some, decide_eq_false_iff_not]
      omega
  rw [depthFault?, hw]
  rfl

theorem itemsFault?_eq_none_iff :
    itemsFault? d n items = none ↔ ∀ v ∈ items, writeFault? d n v = none := by
  induction items
  case nil => simp [itemsFault?]
  case cons v items hi => simp [itemsFault?, hi]

theorem membersFault?_eq_none_iff :
    membersFault? d n members = none ↔ ∀ m ∈ members, writeFault? d n m.2 = none := by
  induction members
  case nil => simp [membersFault?]
  case cons m members hi => rw [membersFault?]; simp [hi]

theorem writeFault?_eq_none (hd : d.Handles) (h : v.IsPlain) (hn : n + v.depth ≤ plainDepth) :
    writeFault? d n v = none := by
  induction h generalizing n
  case int hi => simp [writeFault?, hd.holds _ hi]
  case list items _ hi =>
    have hs : itemsFault? d (n + 1) items = none := by
      refine itemsFault?_eq_none_iff.mpr fun v hv => hi v hv ?_
      have := depth_lt_of_mem_items hv
      omega
    rw [depth] at hn
    rw [writeFault?, depthFault?_eq_none hd (by omega), hs]
    rfl
  case object members _ _ hi =>
    have hs : membersFault? d (n + 1) members = none := by
      refine membersFault?_eq_none_iff.mpr fun m hm => hi m hm ?_
      have := depth_lt_of_mem_members hm
      omega
    rw [depth] at hn
    rw [writeFault?, depthFault?_eq_none hd (by omega), hs]
    rfl
  all_goals rfl

/-! ### Saving and loading -/

theorem saved_eq [Runtime] (hd : d.Handles) (h : v.IsPlain) (hn : v.depth ≤ plainDepth) :
    v.saved d = .ok (String.ofList (writeAt d 0 v.sorted)) := by
  have hw : writeFault? d 0 v.sorted = none :=
    writeFault?_eq_none hd h.sorted <| by simpa using depth_sorted h hn
  rw [saved, checkDepth, if_pos <| Runtime.shows_of_depth_le v hn]
  show (Json.write d v.sorted).mapError _ = _
  rw [write, hw]
  rfl

-- A document is read as it has been written if its tokens are, whatever blanks there are behind it.
theorem parse_writeAt (hl : Lexer.Lexes d d' v) (hr : Reader.Rereads d' v)
    (hn : v.depth ≤ d'.maxDepth) {blanks : List Char} (hb : ∀ c ∈ blanks, Lexer.isSpace c) :
    parse d' (writeAt d 0 v ++ blanks) = .ok v := by
  have hr := hr [] .value [] (.inl rfl) (by simpa using hn)
  rw [List.append_nil] at hr
  rw [parse, tokens_writeAt hl hb, show ({} : Reader) = ⟨[], .value⟩ from rfl, hr]
  rfl

theorem decode_writeAt (hl : Lexer.Lexes d d' v) (hr : Reader.Rereads d' v)
    (hn : v.depth ≤ d'.maxDepth) {blanks : List Char} (hb : ∀ c ∈ blanks, Lexer.isSpace c) :
    decode d' (String.ofList (writeAt d 0 v ++ blanks)).toUTF8 = .ok v := by
  have hp := parse_writeAt hl hr hn hb
  have hs : (String.ofList (writeAt d 0 v ++ blanks)).toList = writeAt d 0 v ++ blanks :=
    String.toList_ofList
  have hz := null_notMem hp
  have ha := head_lt hp
  rw [← hs] at hz ha
  rw [decode, decodeText?_toUTF8 d' hz ha, hs]
  exact hp

theorem decode_of_isPlain (hd : d'.Handles) (h : v.IsPlain) (hn : v.depth ≤ plainDepth) :
    decode d' (String.ofList (writeAt d 0 v)).toUTF8 = .ok v := by
  have hw : decode d' (String.ofList (writeAt d 0 v ++ [])).toUTF8 = .ok v :=
    decode_writeAt (Lexer.lexes_of_isPlain hd.holds h) (Reader.rereads_of_isPlain d' h)
      (hn.trans hd.reads) nofun
  rwa [List.append_nil] at hw

theorem save_of_isWritable [Runtime] (hw : t.IsWritable p) (hs : v.saved d = .ok s) :
    (v.save d t p).1 = .ok () ∧ (v.save d t p).2.read p = .ok s.toUTF8 ∧
      (v.save d t p).2.contains p = .ok true := by
  have ⟨t', place, hm, hl, hd⟩ := hw
  have hw := FileTree.write_of_locate hl hd s.toUTF8
  simp only [save, hm, hs, hw, true_and]
  exact FileTree.read_write hw

-- The condition asks for no more than it has to: what has been saved could be written.
theorem isWritable_of_save [Runtime] (h : (v.save d t p).1 = .ok ()) : t.IsWritable p := by
  unfold save at h
  split at h
  case h_1 => contradiction
  case h_2 t' hm =>
    split at h
    case h_1 => contradiction
    case h_2 s _ =>
      split at h
      case h_1 => contradiction
      case h_2 hw =>
        have ⟨place, hl, hd, _⟩ := FileTree.locate_of_write hw
        exact ⟨t', place, hm, hl, hd⟩

theorem load_of_read (h : t.read p = .ok bytes) (hd : decode d bytes = .ok v) :
    load d t p = .ok v := by
  rw [load, h]
  exact mapError_eq_ok_iff.mpr hd

theorem load_save_sorted [Runtime] (hd : d.Handles) (hd' : d'.Handles) (hw : t.IsWritable p)
    (h : v.IsPlain) (hn : v.depth ≤ plainDepth) :
    (v.save d t p).1 = .ok () ∧ load d' (v.save d t p).2 p = .ok v.sorted ∧
      (v.save d t p).2.contains p = .ok true := by
  have ⟨hs, hr, hc⟩ := save_of_isWritable hw <| saved_eq hd h hn
  exact ⟨hs, load_of_read hr <| decode_of_isPlain hd' h.sorted <| depth_sorted h hn, hc⟩

/-! ### Settings -/

theorem textItems?_map (texts : List String) :
    Settings.textItems? (texts.map .text) = some texts := by
  induction texts
  case nil => rfl
  case cons s texts hi => simp [Settings.textItems?, hi]

theorem isPlain_toJson (s : Settings) : s.toJson.IsPlain := by
  refine .object (List.nodup_singleton _) ?_
  simp only [List.mem_singleton, forall_eq]
  refine .list ?_
  intro v hv
  have ⟨_, _, he⟩ := List.mem_map.mp hv
  exact he ▸ .text

theorem depth_toJson (s : Settings) : s.toJson.depth ≤ 2 := by
  have h : itemsDepth (s.excludePaths.map .text) ≤ 0 := by
    refine itemsDepth_le_iff.mpr fun v hv => ?_
    have ⟨_, _, he⟩ := List.mem_map.mp hv
    exact he ▸ Nat.le_refl _
  simp only [Settings.toJson, depth, membersDepth]
  omega

theorem sorted_toJson (s : Settings) : s.toJson.sorted = s.toJson := by
  have h : sortedItems (s.excludePaths.map .text) = s.excludePaths.map .text := by
    rw [sortedItems_eq_map, List.map_map]
    rfl
  simp [Settings.toJson, sorted, sortedMembers, h, sortMembers]

theorem ofJson_toJson (s : Settings) (origin : String) :
    Settings.ofJson origin s.toJson = .ok s := by
  simp [Settings.ofJson, Settings.toJson, textItems?_map]

theorem load_settings (hc : t.contains p = .ok true) (hl : load d t p = .ok s.toJson) :
    Settings.load d t p = .ok s := by
  simp only [Settings.load, hc, hl]
  exact ofJson_toJson s p.text

/-! ### Round trips -/

-- What one dialect has saved the other one loads, with the keys of all objects in order; so do the
-- settings come back as they were.
theorem load_save [Runtime] (hd : d ∈ Dialect.all) (hd' : d' ∈ Dialect.all) (hw : t.IsWritable p) :
    (∀ v : Json, v.IsPlain → v.depth ≤ plainDepth →
      (v.save d t p).1 = .ok () ∧ load d' (v.save d t p).2 p = .ok v.sorted ∧
      v.Equals v.sorted ∧ v.sorted.IsOrdered ∧ v.sorted.saved d = v.saved d) ∧
    ∀ s : Settings,
      (s.save d t p).1 = .ok () ∧ Settings.load d' (s.save d t p).2 p = .ok s := by
  have hd := Dialect.handles_of_mem hd
  have hd' := Dialect.handles_of_mem hd'
  constructor
  case left =>
    intro v h hn
    have ⟨hs, hl, _⟩ := load_save_sorted hd hd' hw h hn
    have he : v.sorted.saved d = v.saved d := by
      rw [saved_eq hd h hn, saved_eq hd h.sorted (depth_sorted h hn), sorted_sorted h]
    exact ⟨hs, hl, equals_sorted h, sorted_isOrdered h, he⟩
  case right =>
    intro s
    have hn : s.toJson.depth ≤ plainDepth := Nat.le_trans (depth_toJson s) (by decide)
    have ⟨hs, hl, hc⟩ := load_save_sorted hd hd' hw (isPlain_toJson s) hn
    rw [sorted_toJson] at hl
    exact ⟨hs, load_settings hc hl⟩

-- Characters of every kind, and integers at the ends of their range.
def mixedDocument : Json :=
  .object [
    ("b", .text "\"\\\n\x01\x7fé😀"),
    ("a", .list [.int (-Nat.pow 2 63), .int (Nat.pow 2 64 - 1), .object [], .list [.null],
      .bool true])]

theorem isPlain_mixedDocument : mixedDocument.IsPlain := by
  have hl : ∀ v ∈ [.int (-Nat.pow 2 63), .int (Nat.pow 2 64 - 1), .object [], .list [.null],
      .bool true], IsPlain v := by
    simp only [List.forall_mem_cons]
    exact ⟨.int (by decide), .int (by decide), .object .nil nofun, .list (by simp [IsPlain.null]),
      .bool, nofun⟩
  refine .object (by decide) ?_
  simp only [List.forall_mem_cons]
  exact ⟨.text, .list hl, nofun⟩

theorem load_save_mixed :
    (mixedDocument.save .lenient {} ⟨"", ["d", "s"]⟩).1 = .ok () ∧
    load .strict (mixedDocument.save .lenient {} ⟨"", ["d", "s"]⟩).2 ⟨"", ["d", "s"]⟩ =
      .ok mixedDocument.sorted := by
  have hw : FileTree.IsWritable {} ⟨"", ["d", "s"]⟩ := ⟨_, _, rfl, rfl, nofun⟩
  have hd : mixedDocument.depth ≤ plainDepth := by decide
  have ⟨h, _⟩ := load_save Dialect.lenient_mem_all Dialect.strict_mem_all hw
  have ⟨hs, hl, _⟩ := h mixedDocument isPlain_mixedDocument hd
  exact ⟨hs, hl⟩

end StepCatalog.Json
