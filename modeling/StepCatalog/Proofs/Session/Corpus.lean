import Mathlib
import StepCatalog.Proofs.Catalog.Build
import StepCatalog.Session

namespace StepCatalog

-- What an index was last built from, or nothing while it is empty.
abbrev Corpus := Option (List DefinitionSite)

namespace Session

theorem orEmpty_value (a : Answer (Except Fault α)) (empty : α) (message : String) :
    (a.orEmpty empty message).value = a.value.toOption.getD empty := by
  simp only [Answer.orEmpty]
  split <;> simp_all [Except.toOption]

theorem orEmpty_session (a : Answer (Except Fault α)) (empty : α) (message : String) :
    (a.orEmpty empty message).session = a.session := by
  simp only [Answer.orEmpty]
  split <;> rfl

end Session

variable [Runtime]

namespace Corpus

def catalog? (c : Corpus) : Option Catalog :=
  c.bind fun sites => (Catalog.build sites).toOption

-- A corpus takes the place of another one if it can be listed and built.
def put (c : Corpus) (listed : Loader) : Corpus :=
  match listed with
  | .ok sites => if (Catalog.build sites).isOk then some sites else c
  | .error _ => c

-- Before a read, an empty place is filled if that is possible.
def load (c : Corpus) (listed : Loader) : Corpus :=
  if c.isSome then c else c.put listed

theorem catalog?_of_build (h : Catalog.build sites = .ok catalog) :
    catalog? (some sites) = some catalog := by
  simp [catalog?, h, Except.toOption]

theorem put_of_build (c : Corpus) (h : Catalog.build sites = .ok catalog) :
    c.put (.ok sites) = some sites := by
  simp [put, h, Except.isOk, Except.toBool]

theorem put_of_build_fails (c : Corpus) (h : Catalog.build sites = .error e) :
    c.put (.ok sites) = c := by
  simp [put, h, Except.isOk, Except.toBool]

theorem catalog?_put_none (sites : List DefinitionSite) :
    (put none (.ok sites)).catalog? = (Catalog.build sites).toOption := by
  cases hb : Catalog.build sites
  case ok catalog => rw [put_of_build none hb, catalog?_of_build hb]; rfl
  case error e => rw [put_of_build_fails none hb]; rfl

-- A read does not mend what a rebuild from the same listing could not do.
theorem load_put_none (listed : Loader) : (put none listed).load listed = put none listed := by
  simp only [load]
  split
  case isTrue => rfl
  case isFalse h =>
    have hn := Option.not_isSome_iff_eq_none.mp h
    rw [hn, hn]

end Corpus

/-! ### The index -/

namespace Index

-- The slot is as a build of the corpus leaves it.
inductive Holds (ix : Index) : Corpus → Prop
  | empty (slot : ix.slot = none) : Holds ix none
  | built (slot : ix.slot = some s) (build : Catalog.build sites = .ok s.catalog) :
    Holds ix (some sites)

namespace Holds

variable {ix : Index}

theorem catalog? (h : ix.Holds c) : ix.slot.map (·.catalog) = c.catalog? := by
  cases h
  case empty hs => simp [hs, Corpus.catalog?]
  case built hs hb => simp [hs, Corpus.catalog?_of_build hb]

theorem isBuilt (h : ix.Holds c) : ix.isBuilt = c.isSome := by
  cases h
  case empty hs => simp [Index.isBuilt, hs]
  case built hs _ => simp [Index.isBuilt, hs]

theorem rebuild (h : ix.Holds c) (sites : List DefinitionSite) :
    (ix.rebuild sites).2.Holds (c.put <| .ok sites) := by
  simp only [Index.rebuild]
  cases hb : Catalog.build sites
  case ok catalog =>
    rw [c.put_of_build hb]
    exact .built rfl hb
  case error e =>
    rw [c.put_of_build_fails hb]
    exact h

end Holds

theorem rebuild_loads (ix : Index) (sites : List DefinitionSite) :
    (ix.rebuild sites).2.loads = ix.loads := by
  simp only [rebuild]
  split <;> rfl

-- The snapshot that a rebuild returns is the one that it leaves in the slot.
theorem rebuild_value (ix : Index) (sites : List DefinitionSite) :
    (ix.rebuild sites).1.toOption.map (·.catalog) = (Catalog.build sites).toOption := by
  simp only [rebuild]
  split <;> simp_all [Except.toOption]

theorem snapshot_loads (ix : Index) (listed : Loader) :
    (ix.snapshot (some listed)).2.loads = if ix.isBuilt then ix.loads else ix.loads + 1 := by
  simp only [snapshot]
  cases hs : ix.slot
  case some => simp [isBuilt, hs]
  case none =>
    cases listed
    case error => simp [isBuilt, hs]
    case ok => simp [isBuilt, hs, rebuild_loads]

namespace Holds

variable {ix : Index}

theorem snapshot (h : ix.Holds c) (listed : Loader) :
    (ix.snapshot (some listed)).2.Holds (c.load listed) := by
  cases h
  case built hs hb =>
    simp only [Index.snapshot, hs]
    exact .built hs hb
  case empty hs =>
    simp only [Index.snapshot, hs]
    cases listed
    case error => exact .empty rfl
    case ok sites => exact Holds.rebuild (.empty rfl) sites

theorem snapshot_value (h : ix.Holds c) (listed : Loader) :
    (ix.snapshot (some listed)).1.toOption.map (·.catalog) = (c.load listed).catalog? := by
  cases h
  case built hs hb =>
    simp only [Index.snapshot, hs]
    exact (Corpus.catalog?_of_build hb).symm
  case empty hs =>
    simp only [Index.snapshot, hs]
    cases listed
    case error => rfl
    case ok sites => exact (rebuild_value ..).trans (Corpus.catalog?_put_none sites).symm

end Holds

end Index

/-! ### The session -/

namespace Session

variable {s : Session}

theorem snapshot_session (l : Listings) :
    (s.snapshot l).session = { s with index := (s.index.snapshot (some l.definitions)).2 } := by
  simp only [snapshot]
  split <;> simp_all

theorem snapshot_value (l : Listings) :
    (s.snapshot l).value = (s.index.snapshot (some l.definitions)).1.toOption := by
  simp only [snapshot]
  split <;> simp_all [Except.toOption]

theorem tryAsk_session (l : Listings) (empty : α) (message : String)
    (f : Snapshot → Except Fault α) :
    (s.tryAsk l empty message f).session = (s.snapshot l).session :=
  orEmpty_session ..

theorem ask_holds (h : s.index.Holds c) (l : Listings) (empty : α) (f : Snapshot → α) :
    (s.ask l empty f).session.index.Holds (c.load l.definitions) := by
  rw [ask, Answer.map, snapshot_session]
  exact h.snapshot _

-- What is asked of the index is asked of the catalog of the corpus.
theorem ask_value (h : s.index.Holds c) (l : Listings) (empty : α) (f : Catalog → α) :
    (s.ask l empty fun snapshot => f snapshot.catalog).value =
      (c.load l.definitions).catalog?.elim empty f := by
  rw [← h.snapshot_value, ← snapshot_value]
  simp only [ask, Answer.map]
  cases (s.snapshot l).value <;> rfl

theorem tryAsk_value (h : s.index.Holds c) (l : Listings) (empty : α) (message : String)
    (f : Catalog → Except Fault α) :
    (s.tryAsk l empty message fun snapshot => f snapshot.catalog).value =
      (c.load l.definitions).catalog?.elim empty fun catalog =>
        (f catalog).toOption.getD empty := by
  rw [tryAsk, orEmpty_value, ask_value h l]
  cases (c.load l.definitions).catalog? <;> rfl

-- The corpus that a rebuild puts into place, if it can.
theorem rebuild_holds (h : s.index.Holds c) (l : Listings) (sites : Option (List DefinitionSite)) :
    (s.rebuild l sites).session.index.Holds (c.put <| sites.elim l.definitions .ok) := by
  simp only [rebuild]
  cases sites.elim l.definitions .ok
  case error => exact h
  case ok sites =>
    have hr := h.rebuild sites
    rcases hi : s.index.rebuild sites with ⟨_ | _, index⟩ <;> simp_all

theorem rebuild_loads (l : Listings) (sites : Option (List DefinitionSite)) :
    (s.rebuild l sites).session.index.loads = s.index.loads := by
  simp only [rebuild]
  cases sites.elim l.definitions .ok
  case error => rfl
  case ok sites =>
    have hr := s.index.rebuild_loads sites
    rcases hi : s.index.rebuild sites with ⟨_ | _, index⟩ <;> simp_all

end Session

end StepCatalog
