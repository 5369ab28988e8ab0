import Mathlib
import StepCatalog.Proofs.Json.RoundTrip
import StepCatalog.Proofs.Text.Trimming

namespace StepCatalog

-- A change of settings, or a round trip through a file on whatever disk there is at the time.
inductive Edit
  | add (fragment : String)
  | remove (fragment : String)
  | reload (writer reader : Json.Dialect) (disk : FileTree) (path : Path)

namespace Settings

variable {s : Settings}

-- The settings after they have been saved and loaded. Where either fails they stay as they are.
def reload [Runtime] (s : Settings) (writer reader : Json.Dialect) (disk : FileTree) (path : Path) :
    Settings :=
  match s.save writer disk path with
  | (.ok (), disk) => (load reader disk path).toOption.getD s
  | (.error _, _) => s

def edit [Runtime] (s : Settings) : Edit → Settings
  | .add f => (s.add f).2
  | .remove f => (s.remove f).2
  | .reload writer reader disk path => s.reload writer reader disk path

def run [Runtime] (s : Settings) (edits : List Edit) : Settings := edits.foldl edit s

/-! ### One edit -/

theorem add_eq (s : Settings) (f : String) : s.add f =
    if Text.isBlankText f ∨ Text.strip f ∈ s.excludePaths then (false, s)
    else (true, ⟨s.excludePaths ++ [Text.strip f]⟩) := by
  simp only [add, Bool.or_eq_true, String.isEmpty_iff, Text.strip_eq_empty_iff,
    List.contains_iff_mem]

theorem remove_eq (s : Settings) (f : String) : s.remove f =
    (decide (Text.strip f ∈ s.excludePaths), ⟨s.excludePaths.erase (Text.strip f)⟩) := by
  by_cases hm : Text.strip f ∈ s.excludePaths
  case pos => simp [remove, hm]
  case neg => simp [remove, hm, List.erase_of_not_mem]

-- Adding tells whether it has changed anything.
theorem add_iff (s : Settings) (f : String) : (s.add f).1 = true ↔ (s.add f).2 ≠ s := by
  rw [add_eq]
  split
  case isTrue => simp
  case isFalse =>
    refine iff_of_true rfl fun he => ?_
    have hl := congrArg (·.excludePaths.length) he
    simp at hl

theorem remove_iff (s : Settings) (f : String) : (s.remove f).1 = true ↔ (s.remove f).2 ≠ s := by
  rw [remove_eq, decide_eq_true_iff, ne_eq, Settings.mk.injEq, List.erase_eq_self_iff, not_not]

theorem remove_add (h : (s.add f).1 = true) : (s.add f).2.remove f = (true, s) := by
  rw [add_eq] at h ⊢
  split at h
  case isTrue => contradiction
  case isFalse hn =>
    have hm := not_or.mp hn |>.right
    rw [if_neg hn, remove_eq, List.erase_append_right _ hm]
    simp

theorem load_of_isWritable [Runtime] {d d' : Json.Dialect} (hd : d ∈ Json.Dialect.all)
    (hd' : d' ∈ Json.Dialect.all) (hw : t.IsWritable p) (s : Settings) :
    (s.save d t p).1 = .ok () ∧ load d' (s.save d t p).2 p = .ok s := by
  have hn : s.toJson.depth ≤ Json.plainDepth := Nat.le_trans (Json.depth_toJson s) (by decide)
  have ⟨hs, hl, hc⟩ := Json.load_save_sorted (Json.Dialect.handles_of_mem hd)
    (Json.Dialect.handles_of_mem hd') hw (Json.isPlain_toJson s) hn
  rw [Json.sorted_toJson] at hl
  exact ⟨hs, Json.load_settings hc hl⟩

theorem reload_eq [Runtime] (hw : writer ∈ Json.Dialect.all) (hr : reader ∈ Json.Dialect.all)
    (s : Settings) (disk : FileTree) (path : Path) : s.reload writer reader disk path = s := by
  rw [reload]
  split
  case h_1 disk' hs =>
    have hp : disk.IsWritable path := Json.isWritable_of_save <| congrArg Prod.fst hs
    have ⟨_, hl⟩ := load_of_isWritable hw hr hp s
    rw [hs] at hl
    rw [hl]
    rfl
  case h_2 => rfl

end Settings

/-! ### The set of fragments -/

namespace Edit

-- The dialects of a round trip are among the known ones.
def IsKnown [Runtime] : Edit → Prop
  | reload writer reader _ _ => writer ∈ Json.Dialect.all ∧ reader ∈ Json.Dialect.all
  | _ => True

-- What an edit makes of a set of fragments.
def update (present : Finset String) : Edit → Finset String
  | add f => if Text.isBlankText f then present else insert (Text.strip f) present
  | remove f => present.erase (Text.strip f)
  | reload .. => present

-- The fragments that are in the set after some edits.
def setAfter (edits : List Edit) : Finset String := edits.foldl update ∅

-- An edit adds a fragment that is not there yet.
def Adds (e : Edit) (present : Finset String) (f : String) : Prop :=
  ∃ given, e = add given ∧ ¬Text.isBlankText given ∧ Text.strip given = f ∧ f ∉ present

-- The edit at a place in a run adds a fragment that is not there at the time.
def AddsAt (edits : List Edit) (f : String) (place : Nat) : Prop :=
  ∃ e ∈ edits[place]?, e.Adds (setAfter <| edits.take place) f

def LastAddsAt (edits : List Edit) (f : String) (place : Nat) : Prop :=
  IsGreatest { place | AddsAt edits f place } place

-- A fragment was last added before another one was.
def AddedBefore (edits : List Edit) (f g : String) : Prop :=
  ∃ m n, LastAddsAt edits f m ∧ LastAddsAt edits g n ∧ m < n

variable {e : Edit} {edits : List Edit}

theorem setAfter_concat : setAfter (edits ++ [e]) = e.update (setAfter edits) :=
  List.foldl_concat ..

theorem AddsAt.lt (h : AddsAt edits f n) : n < edits.length := by
  have ⟨_, he, _⟩ := h
  exact (List.getElem?_eq_some_iff.mp he).fst

theorem addsAt_concat_iff : AddsAt (edits ++ [e]) f n ↔
    AddsAt edits f n ∨ n = edits.length ∧ e.Adds (setAfter edits) f := by
  rcases Nat.lt_trichotomy n edits.length with hn | rfl | hn
  case inl =>
    rw [AddsAt, List.getElem?_append_left hn, List.take_append_of_le_length hn.le]
    simp [AddsAt, hn.ne]
  case inr.inl => simp [AddsAt]
  case inr.inr =>
    refine iff_of_false (fun h => ?_) ?_
    case refine_1 =>
      have := h.lt
      simp at this
      omega
    case refine_2 =>
      rintro (h | ⟨h, _⟩)
      case inl => exact absurd h.lt hn.not_gt
      case inr => exact absurd h hn.ne'

theorem lastAddsAt_concat_iff (h : ¬e.Adds (setAfter edits) f) :
    LastAddsAt (edits ++ [e]) f n ↔ LastAddsAt edits f n := by
  simp only [LastAddsAt, addsAt_concat_iff, h, and_false, or_false]

theorem lastAddsAt_concat (h : e.Adds (setAfter edits) f) :
    LastAddsAt (edits ++ [e]) f edits.length := by
  refine ⟨addsAt_concat_iff.mpr <| .inr ⟨rfl, h⟩, ?_⟩
  intro n hn
  rcases addsAt_concat_iff.mp hn with hn | ⟨rfl, _⟩
  case inl => exact hn.lt.le
  case inr => exact le_rfl

theorem AddedBefore.concat (h : AddedBefore edits f g) (hf : ¬e.Adds (setAfter edits) f)
    (hg : ¬e.Adds (setAfter edits) g) : AddedBefore (edits ++ [e]) f g := by
  have ⟨m, n, hm, hn, hlt⟩ := h
  exact ⟨m, n, (lastAddsAt_concat_iff hf).mpr hm, (lastAddsAt_concat_iff hg).mpr hn, hlt⟩

end Edit

/-! ### Runs -/

namespace Settings

open Edit

variable {s : Settings} {e : Edit} {edits : List Edit}

-- The settings list what is in the set after some edits, in the order in which it was last added.
structure Lists (s : Settings) (edits : List Edit) : Prop where
  nodup : s.excludePaths.Nodup
  notBlank : ∀ f ∈ s.excludePaths, ¬Text.isBlankText f
  trimmed : ∀ f ∈ s.excludePaths, Text.strip f = f
  mem_iff : ∀ f, f ∈ s.excludePaths ↔ f ∈ setAfter edits
  added : ∀ f ∈ s.excludePaths, ∃ n, LastAddsAt edits f n
  ordered : s.excludePaths.Pairwise (AddedBefore edits)

namespace Lists

theorem nil : Lists {} [] where
  nodup := .nil
  notBlank := nofun
  trimmed := nofun
  mem_iff := by simp [setAfter]
  added := nofun
  ordered := .nil

-- An edit that adds nothing leaves the order of what is still there alone.
theorem keep (h : s.Lists edits) (hl : l.Sublist s.excludePaths)
    (hm : ∀ f, f ∈ l ↔ f ∈ setAfter (edits ++ [e])) (he : ∀ f, ¬e.Adds (setAfter edits) f) :
    Lists ⟨l⟩ (edits ++ [e]) where
  nodup := h.nodup.sublist hl
  notBlank f hf := h.notBlank f <| hl.subset hf
  trimmed f hf := h.trimmed f <| hl.subset hf
  mem_iff := hm
  added f hf := by simpa only [lastAddsAt_concat_iff (he f)] using h.added f <| hl.subset hf
  ordered := (h.ordered.sublist hl).imp fun h => h.concat (he _) (he _)

-- An edit that adds a fragment puts it behind all that are there, which are not added again.
theorem put (h : s.Lists edits) (ha : e.Adds (setAfter edits) f) :
    Lists ⟨s.excludePaths ++ [f]⟩ (edits ++ [e]) := by
  have hk (g) (hg : g ∈ s.excludePaths) : ¬e.Adds (setAfter edits) g :=
    fun ⟨_, _, _, _, hn⟩ => hn <| (h.mem_iff g).mp hg
  have hl := lastAddsAt_concat ha
  have ⟨given, he, hb, ht, hn⟩ := ha
  have hn := mt (h.mem_iff f).mp hn
  have ht' : Text.strip f = f := by rw [← ht, Text.strip_strip]
  constructor
  case nodup => exact h.nodup.append (List.nodup_singleton f) <| List.disjoint_singleton.mpr hn
  case notBlank =>
    refine List.forall_mem_append.mpr ⟨h.notBlank, List.forall_mem_singleton.mpr ?_⟩
    rwa [← Text.strip_eq_empty_iff, ht', ← ht, Text.strip_eq_empty_iff]
  case trimmed =>
    exact List.forall_mem_append.mpr ⟨h.trimmed, List.forall_mem_singleton.mpr ht'⟩
  case mem_iff =>
    intro g
    rw [setAfter_concat, he, update, if_neg hb, ht, Finset.mem_insert, List.mem_append,
      List.mem_singleton, h.mem_iff, or_comm]
  case added =>
    refine List.forall_mem_append.mpr ⟨?_, List.forall_mem_singleton.mpr ⟨_, hl⟩⟩
    intro g hg
    simpa only [lastAddsAt_concat_iff (hk g hg)] using h.added g hg
  case ordered =>
    refine List.pairwise_append.mpr ⟨?_, List.pairwise_singleton _ _, ?_⟩
    case refine_1 => exact h.ordered.imp_of_mem fun hf hg h => h.concat (hk _ hf) (hk _ hg)
    case refine_2 =>
      intro g hg _ hf
      have ⟨n, hg'⟩ := h.added g hg
      rw [List.mem_singleton.mp hf]
      exact ⟨n, _, (lastAddsAt_concat_iff <| hk g hg).mpr hg', hl, hg'.1.lt⟩

theorem add (h : s.Lists edits) (f : String) : (s.add f).2.Lists (edits ++ [.add f]) := by
  rw [add_eq]
  split
  case isTrue hf =>
    have hs : setAfter (edits ++ [.add f]) = setAfter edits := by
      rw [setAfter_concat, update]
      split
      case isTrue => rfl
      case isFalse hb => exact Finset.insert_eq_of_mem <| (h.mem_iff _).mp <| hf.resolve_left hb
    refine h.keep (.refl _) (hs ▸ h.mem_iff) ?_
    rintro g ⟨_, rfl | _, hb, rfl, hg⟩
    exact hf.elim hb <| mt (h.mem_iff _).mp hg
  case isFalse hf =>
    have hf := not_or.mp hf
    exact h.put ⟨f, rfl, hf.left, rfl, mt (h.mem_iff _).mpr hf.right⟩

theorem remove (h : s.Lists edits) (f : String) : (s.remove f).2.Lists (edits ++ [.remove f]) := by
  rw [remove_eq]
  refine h.keep List.erase_sublist ?_ nofun
  intro g
  rw [setAfter_concat, update, Finset.mem_erase, h.nodup.mem_erase_iff, h.mem_iff]

theorem edit [Runtime] (h : s.Lists edits) (he : e.IsKnown) : (s.edit e).Lists (edits ++ [e]) := by
  cases e
  case add f => exact h.add f
  case remove f => exact h.remove f
  case reload =>
    rw [Settings.edit, reload_eq he.left he.right]
    exact h.keep (.refl _) (by rw [setAfter_concat]; exact h.mem_iff) nofun

theorem run [Runtime] (h : ∀ e ∈ edits, e.IsKnown) : (run {} edits).Lists edits := by
  induction edits using List.reverseRecOn
  case nil => exact nil
  case append_singleton edits e hi =>
    have ⟨h, he⟩ := List.forall_mem_append.mp h
    rw [Settings.run, List.foldl_concat]
    exact (hi h).edit <| he e <| List.mem_singleton_self e

end Lists

-- Edits that start from nothing leave what they have in the set, as it was last added, and files
-- keep that. Each change tells whether it was one, and adding is undone by removing, whatever the
-- list is.
theorem run_lists [Runtime] (h : ∀ e ∈ edits, e.IsKnown) :
    (run {} edits).Lists edits ∧
    (∀ s : Settings, ∀ writer ∈ Json.Dialect.all, ∀ reader ∈ Json.Dialect.all, ∀ disk path,
      FileTree.IsWritable disk path →
        (s.save writer disk path).1 = .ok () ∧
        load reader (s.save writer disk path).2 path = .ok s) ∧
    (∀ (s : Settings) (f : String),
      ((s.add f).1 = true ↔ (s.add f).2 ≠ s) ∧ ((s.remove f).1 = true ↔ (s.remove f).2 ≠ s)) ∧
    ∀ (s : Settings) (f : String), (s.add f).1 = true → (s.add f).2.remove f = (true, s) :=
  ⟨.run h, fun s _ hw _ hr _ _ hd => load_of_isWritable hw hr hd s,
    fun s f => ⟨add_iff s f, remove_iff s f⟩, fun _ _ => remove_add⟩

-- A fragment that is added under three spellings, kept in a file, removed and added again.
def respelled : List Edit :=
  [.add " build", .add "dist", .add "build\t", .reload .lenient .strict {} ⟨"", ["d", "s"]⟩,
    .remove "\nbuild", .add "build"]

theorem run_respelled : run {} respelled = ⟨["dist", "build"]⟩ := by
  have hr := reload_eq Json.Dialect.lenient_mem_all Json.Dialect.strict_mem_all
  simp only [run, respelled, List.foldl_cons, List.foldl_nil, edit, hr]
  decide

theorem run_lists_respelled :
    Lists ⟨["dist", "build"]⟩ respelled ∧
    load .strict (save ⟨[" build "]⟩ .lenient {} ⟨"", ["d", "s"]⟩).2 ⟨"", ["d", "s"]⟩ =
      .ok ⟨[" build "]⟩ ∧
    (add ⟨["a", "a"]⟩ " b ").2.remove " b " = (true, ⟨["a", "a"]⟩) := by
  have hk : ∀ e ∈ respelled, e.IsKnown := by
    simp only [respelled, List.forall_mem_cons]
    exact ⟨trivial, trivial, trivial, ⟨Json.Dialect.lenient_mem_all, Json.Dialect.strict_mem_all⟩,
      trivial, trivial, List.forall_mem_nil _⟩
  have hw : FileTree.IsWritable {} ⟨"", ["d", "s"]⟩ := ⟨_, _, rfl, rfl, nofun⟩
  have ⟨hl, hs, _, hu⟩ := run_lists hk
  have ⟨_, hs⟩ :=
    hs ⟨[" build "]⟩ _ Json.Dialect.lenient_mem_all _ Json.Dialect.strict_mem_all _ _ hw
  exact ⟨run_respelled ▸ hl, hs, hu _ _ <| by decide⟩

end Settings

end StepCatalog
