import StepCatalog.Fault

/-!
The index: a slot for the current catalog. A build replaces the catalog as a whole; a read of the
empty slot first builds one from what the loader yields, and a failed build leaves the slot alone.
-/

namespace StepCatalog

-- A catalog and the number of the build that made it.
structure Snapshot where
  catalog : Catalog
  generation : Nat
  deriving DecidableEq

-- What a loader of definitions yields when it is asked.
abbrev Loader := Except Fault (List DefinitionSite)

structure Index where
  slot : Option Snapshot := none
  -- The number of builds that have succeeded.
  builds : Nat := 0
  -- The number of times a loader was asked.
  loads : Nat := 0
  deriving DecidableEq

namespace Index

def isBuilt (ix : Index) : Bool := ix.slot.isSome

variable [Runtime]

def rebuild (ix : Index) (sites : List DefinitionSite) : Except Fault Snapshot × Index :=
  match Catalog.build sites with
  | .error e => (.error (.pattern e), ix)
  | .ok catalog =>
    let snapshot : Snapshot := ⟨catalog, ix.builds + 1⟩
    (.ok snapshot, { ix with slot := some snapshot, builds := ix.builds + 1 })

def invalidate (ix : Index) : Index := { ix with slot := none }

-- The current snapshot; an empty slot is filled from the loader, if there is one.
def snapshot (ix : Index) (loader : Option Loader) : Except Fault Snapshot × Index :=
  match ix.slot, loader with
  | some s, _ => (.ok s, ix)
  | none, none => (.error .notBuilt, ix)
  | none, some yielded =>
    let ix := { ix with loads := ix.loads + 1 }
    match yielded with
    | .error e => (.error (.unavailable e), ix)
    | .ok sites => ix.rebuild sites

end Index

end StepCatalog
