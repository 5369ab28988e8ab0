import StepCatalog.Exclusion
import StepCatalog.Index
import StepCatalog.Reconcile
import StepCatalog.Search.Rank
import StepCatalog.Settings

/-!
A session: settings and an index over a source that can change or fail at any time. No operation
fails; what goes wrong is logged, and the answer is then empty.
-/

namespace StepCatalog

-- What the source of a session lists at the moment.
structure Listings where
  definitions : Except Fault (List DefinitionSite) := .ok []
  features : Except Fault (List FeatureFile) := .ok []

inductive Level
  | debug | info | warning | error
  deriving DecidableEq, Repr

structure LogRecord where
  level : Level
  message : String
  -- The fault that was caught, where one was.
  fault : Option Fault := none
  deriving DecidableEq, Repr

structure Session where
  settings : Settings := {}
  index : Index := {}
  deriving DecidableEq

-- An answer, the session after it, and what was logged on the way.
structure Answer (α : Type) where
  value : α
  session : Session
  log : List LogRecord := []

namespace Answer

def map (f : α → β) (a : Answer α) : Answer β := ⟨f a.value, a.session, a.log⟩

-- Gives up with an empty value, logging the fault if there is one.
def orEmpty (a : Answer (Except Fault α)) (empty : α) (message : String) : Answer α :=
  match a.value with
  | .ok v => ⟨v, a.session, a.log⟩
  | .error e => ⟨empty, a.session, a.log ++ [⟨.error, message, some e⟩]⟩

end Answer

-- What a build is reported with: a warning for each failure, then the counts.
def Snapshot.report (s : Snapshot) : List LogRecord :=
  (s.catalog.failures.map fun f =>
    ⟨.warning, "Dropped step definition: " ++ f.error.message, none⟩) ++
    [⟨.debug, "Step index generation " ++ toString s.generation ++ ": " ++
      toString s.catalog.definitions.length ++ " definitions, " ++
      toString s.catalog.failures.length ++ " dropped", none⟩]

namespace Session

variable [Runtime]

/-! ### The index -/

-- Builds from the definitions that are given, or else from those that the source lists.
def rebuild (s : Session) (l : Listings) (sites : Option (List DefinitionSite)) : Answer Unit :=
  match sites.elim l.definitions .ok with
  | .error e => ⟨(), s, [⟨.error, "Step index rebuild failed", some e⟩]⟩
  | .ok sites =>
    match s.index.rebuild sites with
    | (.ok snapshot, index) => ⟨(), { s with index := index }, snapshot.report⟩
    | (.error e, index) =>
      ⟨(), { s with index := index }, [⟨.error, "Step index rebuild failed", some e⟩]⟩

def invalidate (s : Session) : Session := { s with index := s.index.invalidate }

-- The current snapshot, built now if there is none; a build is reported.
def snapshot (s : Session) (l : Listings) : Answer (Option Snapshot) :=
  match s.index.snapshot (some l.definitions) with
  | (.ok snapshot, index) =>
    ⟨some snapshot, { s with index := index }, if s.index.isBuilt then [] else snapshot.report⟩
  | (.error e, index) =>
    ⟨none, { s with index := index },
      [if e.kind = .unavailable then ⟨.info, "Step index unavailable: " ++ e.message, none⟩
        else ⟨.error, "Step index build failed", some e⟩]⟩

-- Asks something of the current snapshot; without one the answer is empty.
def ask (s : Session) (l : Listings) (empty : α) (f : Snapshot → α) : Answer α :=
  (s.snapshot l).map fun snapshot => snapshot.elim empty f

-- Asks something that may fail of the current snapshot.
def tryAsk (s : Session) (l : Listings) (empty : α) (message : String)
    (f : Snapshot → Except Fault α) : Answer α :=
  (s.ask l (.ok empty) f).orEmpty empty message

/-! ### Searching -/

-- The text that a value is taken for; only a text can be trimmed.
def textOf : Json → Except Fault String
  | .text s => .ok s
  | v => .error (.noMember v.typeName "strip")

def search (s : Session) (l : Listings) (query : Json) (filter : Search.Filter) :
    Answer (List StepReference) :=
  s.tryAsk l [] ("Step search failed for query " ++ query.describe) fun snapshot => do
    return Search.findSteps snapshot.catalog.definitions filter (← textOf query)

def hasDefinition (s : Session) (l : Listings) (text : Json) : Answer Bool :=
  s.tryAsk l false ("Step lookup failed for " ++ text.describe) fun snapshot => do
    (StepCatalog.hasDefinition snapshot.catalog.patterns (← textOf text)).mapError .matching

/-! ### Reconciling -/

-- The references that count: those given, or else all that the source's feature files hold.
def references (s : Session) (l : Listings) (refs : Option (List StepReference)) :
    Except Fault (List StepReference) :=
  match refs with
  | some refs => .ok (Exclusion.keptReferences s.settings.fragments refs)
  | none => l.features.map fun files =>
    collectReferences (Exclusion.keptFiles s.settings.fragments files)

def findMissing (s : Session) (l : Listings) (refs : Option (List StepReference)) :
    Answer (List StepReference) :=
  s.tryAsk l [] "Missing-step reconciliation failed" fun snapshot =>
    (s.references l refs).bind fun refs =>
      (missingSteps snapshot.catalog.patterns refs).mapError .matching

def countMissing (s : Session) (l : Listings) : Answer Nat := (s.findMissing l none).map List.length

def countFiles (s : Session) (l : Listings) : Answer Nat :=
  Answer.orEmpty ⟨l.features.map (Exclusion.fileCount s.settings.fragments), s, []⟩ 0
    "Counting feature files failed"

def countScenarios (s : Session) (l : Listings) : Answer Int :=
  Answer.orEmpty ⟨l.features.map (Exclusion.scenarioCount s.settings.fragments), s, []⟩ 0
    "Counting scenarios failed"

/-! ### Statistics -/

def countDefinitions (s : Session) (l : Listings) : Answer Nat :=
  s.ask l 0 fun snapshot => snapshot.catalog.definitions.length

def groupCounts (s : Session) (l : Listings) : Answer (List (String × Nat)) :=
  s.ask l [] fun snapshot => snapshot.catalog.groupCounts

def screenCounts (s : Session) (l : Listings) : Answer (List (String × Nat)) :=
  s.ask l [] fun snapshot => snapshot.catalog.screenCounts

def failures (s : Session) (l : Listings) : Answer (List Failure) :=
  s.ask l [] fun snapshot => snapshot.catalog.failures

end Session

end StepCatalog
