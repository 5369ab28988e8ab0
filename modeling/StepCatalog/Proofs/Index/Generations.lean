import Mathlib
import StepCatalog.Index

namespace StepCatalog.Index

/-! ### Numbers -/

-- The snapshot in the slot has one of the numbers that were taken.
def IsNumbered (ix : Index) : Prop := ∀ s, ix.slot = some s → s.generation ≤ ix.builds

theorem isNumbered_empty : IsNumbered {} := fun _ h => nomatch h

/-! ### Operations -/

-- What is read off a snapshot: all of it, or one of its parts.
inductive View
  | snapshot
  | definitions
  | patterns
  | groupCounts
  | screenCounts
  | failures

inductive Reading
  | snapshot (s : Snapshot)
  | definitions (definitions : List StepDefinition)
  | patterns (patterns : List StepPattern)
  | counts (counts : List (String × Nat))
  | failures (failures : List Failure)

def View.of : View → Snapshot → Reading
  | snapshot, s => .snapshot s
  | definitions, s => .definitions s.catalog.definitions
  | patterns, s => .patterns s.catalog.patterns
  | groupCounts, s => .counts s.catalog.groupCounts
  | screenCounts, s => .counts s.catalog.screenCounts
  | failures, s => .failures s.catalog.failures

inductive Operation
  | rebuild (sites : List DefinitionSite)
  | invalidate
  -- There may be no loader, and one can yield something else each time.
  | read (view : View) (loader : Option Loader)

section

variable [Runtime]

-- The operations that make room for another snapshot.
def Operation.Replaces : Operation → Prop
  | rebuild sites => ∃ catalog, Catalog.build sites = .ok catalog
  | invalidate => True
  | read .. => False

inductive Response
  | rebuilt (snapshot : Except Fault Snapshot)
  | done
  | reading (reading : Except Fault Reading)

def perform (ix : Index) : Operation → Response × Index
  | .rebuild sites => (ix.rebuild sites).map .rebuilt id
  | .invalidate => (.done, ix.invalidate)
  | .read view loader => (ix.snapshot loader).map (fun s => .reading <| s.map view.of) id

-- The snapshot that a read gets to see, if it succeeds.
def seen? (ix : Index) : Operation → Option Snapshot
  | .read _ loader => (ix.snapshot loader).1.toOption
  | .rebuild _ | .invalidate => none

-- The snapshot that an operation builds, if it does and succeeds. A read does so only where there is
-- none in the slot.
def built? (ix : Index) : Operation → Option Snapshot
  | .rebuild sites => (ix.rebuild sites).1.toOption
  | .invalidate => none
  | .read _ loader => if ix.isBuilt then none else (ix.snapshot loader).1.toOption

/-! ### One step -/

-- An operation puts a snapshot of the next generation in the slot, or it empties the slot, or else
-- it leaves the slot as it is. Only the first of these takes a number.
inductive Effect (ix : Index) (op : Operation) (ix' : Index) : Prop
  | built (new : ix.built? op = some s) (slot : ix'.slot = some s)
    (generation : s.generation = ix.builds + 1) (builds : ix'.builds = ix.builds + 1)
    (room : ix.slot = none ∨ op.Replaces)
  | emptied (new : ix.built? op = none) (slot : ix'.slot = none) (builds : ix'.builds = ix.builds)
    (room : op.Replaces)
  | kept (new : ix.built? op = none) (slot : ix'.slot = ix.slot) (builds : ix'.builds = ix.builds)
    (room : ¬op.Replaces)

variable {ix : Index} {op : Operation} {s : Snapshot}

theorem rebuild_of_build (h : Catalog.build sites = .ok catalog) (ix : Index) :
    ix.rebuild sites = (.ok ⟨catalog, ix.builds + 1⟩,
      ⟨some ⟨catalog, ix.builds + 1⟩, ix.builds + 1, ix.loads⟩) := by
  rw [rebuild, h]

theorem rebuild_of_build_fails (h : Catalog.build sites = .error e) (ix : Index) :
    ix.rebuild sites = (.error (.pattern e), ix) := by
  rw [rebuild, h]

theorem snapshot_of_slot (h : ix.slot = some s) (loader : Option Loader) :
    ix.snapshot loader = (.ok s, ix) := by
  rw [snapshot.eq_def, h]

-- Asking a loader is counted, but it is no build.
theorem snapshot_of_empty (h : ix.slot = none) (sites : List DefinitionSite) :
    ix.snapshot (some (.ok sites)) = rebuild { ix with loads := ix.loads + 1 } sites := by
  rw [snapshot.eq_def, h]

theorem snapshot_of_empty_fails (h : ix.slot = none) (hl : ∀ sites, loader ≠ some (.ok sites)) :
    ∃ e ix', ix.snapshot loader = (.error e, ix') ∧ ix'.slot = none ∧ ix'.builds = ix.builds := by
  simp only [snapshot.eq_def, h]
  rcases loader with _ | e | sites
  case none => exact ⟨_, _, rfl, h, rfl⟩
  case some.error => exact ⟨_, _, rfl, rfl, rfl⟩
  case some.ok => exact absurd rfl <| hl sites

theorem perform_effect (ix : Index) (op : Operation) : Effect ix op (ix.perform op).2 := by
  cases op
  case rebuild sites =>
    cases hb : Catalog.build sites
    case ok catalog =>
      have hr := rebuild_of_build hb ix
      rw [perform, hr]
      exact .built (by rw [built?, hr]; rfl) rfl rfl rfl <| .inr ⟨catalog, hb⟩
    case error e =>
      have hr := rebuild_of_build_fails hb ix
      rw [perform, hr]
      exact .kept (by rw [built?, hr]; rfl) rfl rfl fun ⟨_, h⟩ => nomatch hb.symm.trans h
  case invalidate => exact .emptied rfl rfl rfl trivial
  case read view loader =>
    have hb : ix.built? (.read view loader) =
        if ix.isBuilt then none else (ix.snapshot loader).1.toOption := rfl
    rw [perform]
    cases hs : ix.slot
    case some s =>
      rw [snapshot_of_slot hs]
      exact .kept (by rw [hb, isBuilt, hs]; rfl) rfl rfl not_false
    case none =>
      rw [isBuilt, hs] at hb
      by_cases hl : ∃ sites, loader = some (.ok sites)
      case neg =>
        obtain ⟨e, ix', hf, hs', hn⟩ := snapshot_of_empty_fails hs fun sites h => hl ⟨sites, h⟩
        rw [hf] at hb ⊢
        exact .kept hb (hs'.trans hs.symm) hn not_false
      case pos =>
        obtain ⟨sites, rfl⟩ := hl
        rw [snapshot_of_empty hs] at hb ⊢
        cases hc : Catalog.build sites
        case ok catalog =>
          rw [rebuild_of_build hc] at hb ⊢
          exact .built hb rfl rfl rfl <| .inl hs
        case error e =>
          rw [rebuild_of_build_fails hc] at hb ⊢
          exact .kept hb rfl rfl not_false

-- A read leaves what it has seen in the slot.
theorem slot_of_seen? (h : s ∈ ix.seen? op) : (ix.perform op).2.slot = some s := by
  cases op
  case rebuild | invalidate => contradiction
  case read view loader =>
    cases hs : ix.slot
    case some s' =>
      rw [Option.mem_def, seen?, snapshot_of_slot hs] at h
      rw [perform, snapshot_of_slot hs]
      exact hs.trans h
    case none =>
      have hb : ix.built? (.read view loader) = some s := by
        rw [built?, isBuilt, hs]
        exact h
      cases ix.perform_effect (.read view loader)
      case built new slot _ _ _ => exact slot.trans <| new.symm.trans hb
      case emptied new _ _ _ | kept new _ _ _ => exact nomatch new.symm.trans hb

theorem seen?_of_slot (h : ix.slot = some s) (hs : s' ∈ ix.seen? op) : s' = s := by
  cases op
  case rebuild | invalidate => contradiction
  case read view loader =>
    rw [Option.mem_def, seen?, snapshot_of_slot h] at hs
    exact (Option.some.inj hs).symm

theorem slot_of_not_replaces (h : ix.slot = some s) (hr : ¬op.Replaces) :
    (ix.perform op).2.slot = some s := by
  cases ix.perform_effect op
  case built room => exact absurd room <| by simp [h, hr]
  case emptied room => exact absurd room hr
  case kept slot _ _ => exact slot.trans h

theorem IsNumbered.perform (h : ix.IsNumbered) (op : Operation) : (ix.perform op).2.IsNumbered := by
  intro s' hs'
  cases ix.perform_effect op
  case built slot generation builds _ =>
    cases slot.symm.trans hs'
    exact (generation.trans builds.symm).le
  case emptied slot _ _ => exact nomatch slot.symm.trans hs'
  case kept slot builds _ => exact builds ▸ h s' (slot.symm.trans hs')

-- No generation below `g` is seen any more.
structure AtLeast (ix : Index) (g : Nat) : Prop where
  next : g ≤ ix.builds + 1
  slot : ∀ s, ix.slot = some s → g ≤ s.generation

theorem AtLeast.perform (h : ix.AtLeast g) (op : Operation) : (ix.perform op).2.AtLeast g := by
  have ⟨hn, hs⟩ := h
  cases ix.perform_effect op
  case built slot generation builds _ =>
    refine ⟨by omega, fun s' hs' => ?_⟩
    cases slot.symm.trans hs'
    exact generation ▸ hn
  case emptied slot builds _ =>
    exact ⟨builds ▸ hn, fun s' hs' => nomatch slot.symm.trans hs'⟩
  case kept slot builds _ => exact ⟨builds ▸ hn, fun s' hs' => hs s' <| slot.symm.trans hs'⟩

-- A snapshot that had to make room is not seen again, nor is any before it.
theorem atLeast_of_replaces (h : ix.IsNumbered) (hs : ix.slot = some s) (hr : op.Replaces) :
    (ix.perform op).2.AtLeast (s.generation + 1) := by
  have hn := h s hs
  cases ix.perform_effect op
  case built slot generation builds _ =>
    refine ⟨by omega, fun s' hs' => ?_⟩
    cases slot.symm.trans hs'
    omega
  case emptied slot builds _ =>
    exact ⟨by omega, fun s' hs' => nomatch slot.symm.trans hs'⟩
  case kept room => exact absurd hr room

/-! ### Runs -/

def run (ix : Index) (ops : List Operation) : Index := ops.foldl (fun ix op => (ix.perform op).2) ix

-- The snapshots that are built in a run, by rebuilds and by reads alike.
def built (ix : Index) : List Operation → List Snapshot
  | [] => []
  | op :: ops => (ix.built? op).toList ++ built (ix.perform op).2 ops

theorem built_generations (ix : Index) (ops : List Operation) :
    (ix.built ops).map (·.generation) = List.range' (ix.builds + 1) (ix.built ops).length := by
  induction ops generalizing ix
  case nil => rfl
  case cons op ops hi =>
    have hi := hi (ix.perform op).2
    cases ix.perform_effect op
    case built new _ generation builds _ =>
      rw [builds] at hi
      simp [built, new, hi, generation, List.range'_succ]
    case emptied new _ builds _ | kept new _ builds _ =>
      rw [builds] at hi
      simpa [built, new] using hi

theorem run_isNumbered (h : ix.IsNumbered) (ops : List Operation) : (ix.run ops).IsNumbered := by
  induction ops generalizing ix
  case nil => exact h
  case cons op ops hi => exact hi <| h.perform op

theorem run_atLeast (h : ix.AtLeast g) (ops : List Operation) : (ix.run ops).AtLeast g := by
  induction ops generalizing ix
  case nil => exact h
  case cons op ops hi => exact hi <| h.perform op

theorem run_slot (hs : ix.slot = some s) (h : ∀ op ∈ ops, ¬op.Replaces) :
    (ix.run ops).slot = some s := by
  induction ops generalizing ix
  case nil => exact hs
  case cons op ops hi =>
    have ⟨hr, h⟩ := List.forall_mem_cons.mp h
    exact hi (slot_of_not_replaces hs hr) h

theorem run_atLeast_of_replaces (hn : ix.IsNumbered) (hs : ix.slot = some s)
    (h : ∃ op ∈ ops, op.Replaces) : (ix.run ops).AtLeast (s.generation + 1) := by
  -- The slot holds the snapshot until the first operation that makes room.
  induction ops generalizing ix
  case nil => simp at h
  case cons op ops hi =>
    by_cases hr : op.Replaces
    case pos => exact run_atLeast (atLeast_of_replaces hn hs hr) ops
    case neg =>
      have h : ∃ op ∈ ops, op.Replaces := by simpa [hr] using h
      exact hi (hn.perform op) (slot_of_not_replaces hs hr) h

theorem run_append (ix : Index) (ops ops' : List Operation) :
    ix.run (ops ++ ops') = (ix.run ops).run ops' :=
  List.foldl_append

-- A later read sees the same snapshot again, unless room was made for one of a later generation.
theorem seen?_after (hn : ix.IsNumbered) (hs : s ∈ ix.seen? op)
    (hs' : s' ∈ ((ix.perform op).2.run between).seen? op') :
    s' = s ∧ (∀ op ∈ between, ¬op.Replaces) ∨
      s.generation < s'.generation ∧ ∃ op ∈ between, op.Replaces := by
  have hslot := slot_of_seen? hs
  by_cases hr : ∃ op ∈ between, op.Replaces
  case pos =>
    have ha := run_atLeast_of_replaces (hn.perform op) hslot hr
    exact .inr ⟨(ha.perform op').slot s' <| slot_of_seen? hs', hr⟩
  case neg =>
    have hr : ∀ op ∈ between, ¬op.Replaces := fun op hm h => hr ⟨op, hm, h⟩
    exact .inl ⟨seen?_of_slot (run_slot hslot hr) hs', hr⟩

-- What a read answers is read off the snapshot that it sees.
theorem perform_read (ix : Index) (view : View) (loader : Option Loader) :
    ∃ reading, (ix.perform (.read view loader)).1 = .reading reading ∧
      reading.toOption = (ix.seen? (.read view loader)).map view.of := by
  refine ⟨(ix.snapshot loader).1.map view.of, rfl, ?_⟩
  rw [seen?]
  cases (ix.snapshot loader).1 <;> rfl

-- The snapshots that are built have the numbers from one on, with no gap for what fails. Of two reads
-- the later one sees no lower number, and another number only if room was made for it in between.
theorem run_generations :
    (∀ ops, (built {} ops).map (·.generation) = List.range' 1 (built {} ops).length) ∧
    (∀ ix view loader, ∃ reading, (perform ix (.read view loader)).1 = .reading reading ∧
      reading.toOption = (ix.seen? (.read view loader)).map view.of) ∧
    ∀ before op between op', ∀ s ∈ (run {} before).seen? op,
      ∀ s' ∈ (run {} (before ++ op :: between)).seen? op',
        s.generation ≤ s'.generation ∧
        (s.generation ≠ s'.generation ↔ ∃ op ∈ between, op.Replaces) := by
  refine ⟨built_generations {}, perform_read, ?_⟩
  intro before op between op' s hs s' hs'
  rw [run_append] at hs'
  rcases seen?_after (run_isNumbered isNumbered_empty before) hs hs' with ⟨rfl, hr⟩ | ⟨hlt, hr⟩
  case inl => exact ⟨le_rfl, iff_of_false (by simp) fun ⟨op, hm, h⟩ => hr op hm h⟩
  case inr => exact ⟨hlt.le, iff_of_true hlt.ne hr⟩

end

-- A missing loader, one that fails and a corpus that cannot be built take no number.
theorem run_generations_fails :
    let sites : List DefinitionSite := [⟨"ok", "", 1, ""⟩]
    let broken : List DefinitionSite := [⟨"ok", "", 1, ""⟩, ⟨"a\x7b4294967295\x7d(b)", "", 2, ""⟩]
    let before := [.read .snapshot none, .rebuild broken,
      .read .patterns (some (.error (.listing "gone"))), .rebuild sites, .rebuild broken]
    let between := [.rebuild broken, .read .failures none, .invalidate, .read .snapshot none]
    let after := before ++ .read .definitions none :: between
    (built {} (after ++ [.read .groupCounts (some (.ok sites))])).map (·.generation) = [1, 2] ∧
      ∃ s ∈ (run {} before).seen? (.read .definitions none),
      ∃ s' ∈ (run {} after).seen? (.read .groupCounts (some (.ok sites))),
        s.generation = 1 ∧ s'.generation = 2 ∧ ∃ op ∈ between, op.Replaces := by
  intro sites broken before between after
  have ⟨hb, _, hr⟩ := run_generations
  have hn : (built {} (after ++ [.read .groupCounts (some (.ok sites))])).length = 2 := by
    decide +kernel
  have h₁ : ((run {} before).seen? (.read .definitions none)).map (·.generation) = some 1 := by
    decide +kernel
  have h₂ : ((run {} after).seen? (.read .groupCounts (some (.ok sites)))).map (·.generation) =
      some 2 := by
    decide +kernel
  obtain ⟨s, hs, h₁⟩ := Option.map_eq_some_iff.mp h₁
  obtain ⟨s', hs', h₂⟩ := Option.map_eq_some_iff.mp h₂
  have hm := (hr before _ between _ s hs s' hs').right.mp <| by rw [h₁, h₂]; decide
  exact ⟨(hb _).trans <| by rw [hn]; rfl, s, hs, s', hs', h₁, h₂, hm⟩

end StepCatalog.Index
