import Mathlib
import StepCatalog.Proofs.Session.Corpus

namespace StepCatalog

inductive Operation
  | rebuild (sites : Option (List DefinitionSite))
  | invalidate
  | search (query : Json) (filter : Search.Filter)
  | hasDefinition (text : Json)
  | findMissing (refs : Option (List StepReference))
  | countMissing
  | countFiles
  | countScenarios
  | countDefinitions
  | groupCounts
  | screenCounts
  | failures

inductive Response
  | done
  | references (refs : List StepReference)
  | verdict (holds : Bool)
  | count (n : Int)
  | counts (counts : List (String × Nat))
  | failures (failures : List Failure)

-- What a session finds when an operation is performed. Both parts can change at any time.
structure Moment where
  settings : Settings
  listings : Listings

section

variable [Runtime]

namespace Session

def perform (s : Session) (m : Moment) (op : Operation) : Answer Response :=
  let s : Session := { s with settings := m.settings }
  match op with
  | .rebuild sites => (s.rebuild m.listings sites).map fun _ => .done
  | .invalidate => ⟨.done, s.invalidate, []⟩
  | .search query filter => (s.search m.listings query filter).map .references
  | .hasDefinition text => (s.hasDefinition m.listings text).map .verdict
  | .findMissing refs => (s.findMissing m.listings refs).map .references
  | .countMissing => (s.countMissing m.listings).map fun n : Nat => .count n
  | .countFiles => (s.countFiles m.listings).map fun n : Nat => .count n
  | .countScenarios => (s.countScenarios m.listings).map .count
  | .countDefinitions => (s.countDefinitions m.listings).map fun n : Nat => .count n
  | .groupCounts => (s.groupCounts m.listings).map .counts
  | .screenCounts => (s.screenCounts m.listings).map .counts
  | .failures => (s.failures m.listings).map .failures

-- The responses to a run of operations, and the session after it.
def run (s : Session) : List (Moment × Operation) → List Response × Session
  | [] => ([], s)
  | (m, op) :: rest =>
    let a := s.perform m op
    let after := run a.session rest
    (a.value :: after.1, after.2)

-- All that is logged in a run.
def logged (s : Session) : List (Moment × Operation) → List LogRecord
  | [] => []
  | (m, op) :: rest => (s.perform m op).log ++ logged (s.perform m op).session rest

end Session

/-! ### The machine -/

-- A machine that has nothing but a corpus.
namespace Operation

-- The operations that ask something of the index.
def reads : Operation → Bool
  | rebuild _ | invalidate | countFiles | countScenarios => false
  | search .. | hasDefinition _ | findMissing _ | countMissing | countDefinitions | groupCounts
  | screenCounts | failures => true

def next (op : Operation) (l : Listings) (c : Corpus) : Corpus :=
  match op with
  | rebuild sites => c.put <| sites.elim l.definitions .ok
  | invalidate => none
  | op => if op.reads then c.load l.definitions else c

abbrev Features := Except Fault (List FeatureFile)

def missing (settings : Settings) (features : Features) (refs : Option (List StepReference))
    (catalog : Catalog) : List StepReference :=
  let counted : Except Fault (List StepReference) :=
    match refs with
    | some refs => .ok (Exclusion.keptReferences settings.fragments refs)
    | none => features.map fun files =>
      collectReferences (Exclusion.keptFiles settings.fragments files)
  (counted.toOption.bind fun refs => (missingSteps catalog.patterns refs).toOption).getD []

-- The response is made from what a build of the corpus yields, and is empty where nothing is built.
def respond (op : Operation) (settings : Settings) (features : Features)
    (catalog : Option Catalog) : Response :=
  match op with
  | rebuild _ | invalidate => .done
  | search query filter => .references <| catalog.elim [] fun c =>
    (Session.textOf query).toOption.elim [] <| Search.findSteps c.definitions filter
  | hasDefinition text => .verdict <| catalog.elim false fun c =>
    ((Session.textOf text).toOption.bind fun t =>
      (StepCatalog.hasDefinition c.patterns t).toOption).getD false
  | findMissing refs => .references <| catalog.elim [] <| missing settings features refs
  | countMissing => .count <| (catalog.elim [] <| missing settings features none).length
  | countFiles => .count <|
    (features.toOption.elim 0 (Exclusion.fileCount settings.fragments) : Nat)
  | countScenarios => .count <|
    features.toOption.elim 0 <| Exclusion.scenarioCount settings.fragments
  | countDefinitions => .count <| (catalog.elim 0 (·.definitions.length) : Nat)
  | groupCounts => .counts <| catalog.elim [] Catalog.groupCounts
  | screenCounts => .counts <| catalog.elim [] Catalog.screenCounts
  | failures => .failures <| catalog.elim [] Catalog.failures

-- The responses of the machine to a run of operations, and its corpus after it.
def run (c : Corpus) : List (Moment × Operation) → List Response × Corpus
  | [] => ([], c)
  | (m, op) :: rest =>
    let c := op.next m.listings c
    let after := run c rest
    (op.respond m.settings m.listings.features c.catalog? :: after.1, after.2)

-- How often a read finds the machine without a corpus.
def loads (c : Corpus) : List (Moment × Operation) → Nat
  | [] => 0
  | (m, op) :: rest =>
    (if op.reads ∧ c = none then 1 else 0) + loads (op.next m.listings c) rest

end Operation

/-! ### One step -/

namespace Session

variable {s : Session}

theorem search_value (h : s.index.Holds c) (l : Listings) (query : Json) (filter : Search.Filter) :
    (s.search l query filter).value = (c.load l.definitions).catalog?.elim [] fun catalog =>
      (textOf query).toOption.elim [] <| Search.findSteps catalog.definitions filter := by
  refine (tryAsk_value h l [] _ fun catalog => do
    return Search.findSteps catalog.definitions filter (← textOf query)).trans ?_
  cases textOf query <;> rfl

theorem hasDefinition_value (h : s.index.Holds c) (l : Listings) (text : Json) :
    (s.hasDefinition l text).value = (c.load l.definitions).catalog?.elim false fun catalog =>
      ((textOf text).toOption.bind fun t =>
        (StepCatalog.hasDefinition catalog.patterns t).toOption).getD false := by
  refine (tryAsk_value h l false _ fun catalog => do
    (StepCatalog.hasDefinition catalog.patterns (← textOf text)).mapError .matching).trans ?_
  simp only [bind, toOption_bind, toOption_mapError]

theorem findMissing_value (h : s.index.Holds c) (l : Listings)
    (refs : Option (List StepReference)) :
    (s.findMissing l refs).value = (c.load l.definitions).catalog?.elim []
      (Operation.missing s.settings l.features refs) := by
  refine (tryAsk_value h l [] _ fun catalog => (s.references l refs).bind fun refs =>
    (missingSteps catalog.patterns refs).mapError .matching).trans ?_
  simp only [toOption_bind, toOption_mapError]
  rfl

theorem perform_value (h : s.index.Holds c) (m : Moment) (op : Operation) :
    (s.perform m op).value =
      op.respond m.settings m.listings.features (op.next m.listings c).catalog? := by
  let s' : Session := { s with settings := m.settings }
  have h : s'.index.Holds c := h
  cases op
  case rebuild => rfl
  case invalidate => rfl
  case search query filter => exact congrArg Response.references <| search_value h ..
  case hasDefinition text => exact congrArg Response.verdict <| hasDefinition_value h ..
  case findMissing refs => exact congrArg Response.references <| findMissing_value h ..
  case countMissing =>
    exact congrArg (fun refs : List StepReference => Response.count refs.length) <|
      findMissing_value h ..
  case countFiles =>
    refine congrArg (fun n : Nat => Response.count n) ?_
    simp only [Session.countFiles, orEmpty_value, toOption_map]
    cases m.listings.features <;> rfl
  case countScenarios =>
    refine congrArg Response.count ?_
    simp only [Session.countScenarios, orEmpty_value, toOption_map]
    cases m.listings.features <;> rfl
  case countDefinitions =>
    exact congrArg (fun n : Nat => Response.count n) <|
      ask_value h m.listings 0 (·.definitions.length)
  case groupCounts =>
    exact congrArg Response.counts <| ask_value h m.listings [] Catalog.groupCounts
  case screenCounts =>
    exact congrArg Response.counts <| ask_value h m.listings [] Catalog.screenCounts
  case failures => exact congrArg Response.failures <| ask_value h m.listings [] Catalog.failures

-- A read leaves behind what getting the snapshot leaves behind.
theorem perform_session (hr : op.reads) (m : Moment) :
    (s.perform m op).session =
      (snapshot { s with settings := m.settings } m.listings).session := by
  cases op
  case rebuild | invalidate | countFiles | countScenarios => contradiction
  case search | hasDefinition | findMissing | countMissing =>
    simp only [perform, Answer.map, search, hasDefinition, findMissing, countMissing,
      tryAsk_session]
  case countDefinitions | groupCounts | screenCounts | failures => rfl

theorem perform_holds (h : s.index.Holds c) (m : Moment) (op : Operation) :
    (s.perform m op).session.index.Holds (op.next m.listings c) := by
  let s' : Session := { s with settings := m.settings }
  -- All reads leave behind what the snapshot does, so only the other operations are told apart.
  have hr (hr : op.reads) :
      (s.perform m op).session.index.Holds (c.load m.listings.definitions) := by
    rw [perform_session hr, snapshot_session]
    exact h.snapshot _
  cases op
  case rebuild sites => exact rebuild_holds (s := s') h m.listings sites
  case invalidate => exact .empty rfl
  case countFiles | countScenarios =>
    simp only [perform, Answer.map, countFiles, countScenarios, orEmpty_session]
    exact h
  all_goals exact hr rfl

theorem perform_loads (h : s.index.Holds c) (m : Moment) (op : Operation) :
    (s.perform m op).session.index.loads =
      s.index.loads + if op.reads ∧ c = none then 1 else 0 := by
  by_cases hr : op.reads
  case pos =>
    rw [perform_session hr, snapshot_session]
    refine (Index.snapshot_loads ..).trans ?_
    rw [h.isBuilt]
    cases c <;> simp [hr]
  case neg =>
    rw [if_neg <| mt And.left hr, Nat.add_zero]
    cases op
    case rebuild => exact rebuild_loads ..
    case invalidate => rfl
    case countFiles | countScenarios =>
      simp only [perform, Answer.map, countFiles, countScenarios, orEmpty_session]
    all_goals contradiction

/-! ### Runs -/

theorem run_eq (h : s.index.Holds c) (steps : List (Moment × Operation)) :
    (s.run steps).1 = (Operation.run c steps).1 ∧
      (s.run steps).2.index.Holds (Operation.run c steps).2 ∧
      (s.run steps).2.index.loads = s.index.loads + Operation.loads c steps := by
  -- Session and machine advance together, and what the index holds is the corpus at every step.
  induction steps generalizing s c
  case nil => exact ⟨rfl, h, rfl⟩
  case cons step steps hi =>
    have ⟨m, op⟩ := step
    have ⟨hv, hh, hl⟩ := hi <| perform_holds h m op
    refine ⟨?_, hh, ?_⟩
    case refine_1 =>
      simp only [run, Operation.run, hv, perform_value h]
    case refine_2 =>
      simp only [run, Operation.loads, hl, perform_loads h]
      omega

theorem snapshot_of_isBuilt (h : s.index.isBuilt) (l₁ l₂ : Listings) :
    s.snapshot l₁ = s.snapshot l₂ := by
  have ⟨snapshot, hs⟩ := Option.isSome_iff_exists.mp h
  simp only [Session.snapshot, Index.snapshot, hs]

theorem perform_of_isBuilt (h : s.index.isBuilt) (hr : op.reads) (m : Moment) (listed : Loader) :
    s.perform m op = s.perform { m with listings.definitions := listed } op := by
  let s' : Session := { s with settings := m.settings }
  have hs := snapshot_of_isBuilt (s := s') h m.listings { m.listings with definitions := listed }
  cases op
  case rebuild | invalidate | countFiles | countScenarios => contradiction
  case search | hasDefinition | findMissing | countMissing =>
    simp only [perform, search, hasDefinition, findMissing, countMissing, references, tryAsk, ask]
    rw [hs]
  case countDefinitions | groupCounts | screenCounts | failures =>
    simp only [perform, countDefinitions, groupCounts, screenCounts, failures, ask]
    rw [hs]

-- All that an index amounts to is the corpus of the machine. Once it is built a read does not ask
-- for the definitions that are listed, and once it is invalidated nothing is left of its corpus.
theorem run_simulates (settings : Settings) (before : List (Moment × Operation)) :
    let (responses, s) := run { settings := settings } before
    let (expected, c) := Operation.run none before
    responses = expected ∧ s.index.Holds c ∧ s.index.loads = Operation.loads none before ∧
      (∀ m op listed, s.index.isBuilt → op.reads →
        s.perform m op = s.perform { m with listings.definitions := listed } op) ∧
      ∀ after, (s.invalidate.run after).1 = (run { settings := settings } after).1 := by
  have hf : ({ settings := settings } : Session).index.Holds none := .empty rfl
  have ⟨hr, hh, hl⟩ := run_eq hf before
  refine ⟨hr, hh, hl.trans <| Nat.zero_add _, ?_, ?_⟩
  case refine_1 =>
    intro m op listed hb hr
    exact perform_of_isBuilt hb hr m listed
  case refine_2 =>
    intro after
    have hi : (run { settings := settings } before).2.invalidate.index.Holds none := .empty rfl
    rw [(run_eq hi after).left, (run_eq hf after).left]

end Session

end

namespace Session

-- The source fails all along, so a session counts what it was given until that is forgotten.
theorem run_simulates_given :
    let failing : Listings := { definitions := .error <| .listing "down" }
    let given := Operation.rebuild (some [⟨"I log in", "", 1, "g"⟩])
    let s := (run {} [(⟨{}, failing⟩, given)]).2
    s.index.isBuilt ∧ Operation.countDefinitions.reads ∧
      s.perform ⟨{}, failing⟩ .countDefinitions = s.perform ⟨{}, {}⟩ .countDefinitions ∧
      (s.run [(⟨{}, failing⟩, .countDefinitions)]).1 matches [.count 1] ∧
      (s.invalidate.run [(⟨{}, failing⟩, .countDefinitions)]).1 matches [.count 0] := by
  intro failing given s
  have hb : s.index.isBuilt := by decide +kernel
  have ⟨_, _, _, hr, hi⟩ := run_simulates {} [(⟨{}, failing⟩, given)]
  have hi : ∀ after, (s.invalidate.run after).1 = (run {} after).1 := hi
  refine ⟨hb, rfl, hr _ _ _ hb rfl, by decide +kernel, ?_⟩
  rw [hi]
  decide +kernel

end Session

/-! ### Sources that do not change -/

-- The source lists the same definitions at every step, and no step puts others in their place.
structure ListsOnly (listed : Loader) (step : Moment × Operation) : Prop where
  listings : step.1.listings.definitions = listed
  unmoved : ∀ sites, step.2 ≠ .rebuild (some sites)

-- There is no corpus, or it is what the source lists.
def Corpus.IsListing (c : Corpus) (sites : List DefinitionSite) : Prop := c = none ∨ c = some sites

section

variable [Runtime]

namespace Corpus.IsListing

variable {sites : List DefinitionSite}

theorem load (h : IsListing c sites) (hb : Catalog.build sites = .ok catalog) :
    c.load (.ok sites) = some sites := by
  rcases h with rfl | rfl
  case inl => exact put_of_build none hb
  case inr => rfl

theorem next (h : IsListing c sites) (hb : Catalog.build sites = .ok catalog)
    (hl : ListsOnly (.ok sites) (m, op)) : IsListing (op.next m.listings c) sites := by
  have hd : m.listings.definitions = .ok sites := hl.listings
  cases op
  case rebuild given =>
    cases given
    case none => exact .inr <| by simp [Operation.next, hd, put_of_build _ hb]
    case some => exact absurd rfl <| hl.unmoved _
  case invalidate => exact .inl rfl
  case countFiles | countScenarios => exact h
  all_goals exact .inr <| by simp [Operation.next, Operation.reads, hd, h.load hb]

theorem run (h : IsListing c sites) (hb : Catalog.build sites = .ok catalog)
    (hl : ∀ step ∈ steps, ListsOnly (.ok sites) step) :
    IsListing (Operation.run c steps).2 sites := by
  induction steps generalizing c
  case nil => exact h
  case cons step steps hi =>
    have ⟨hs, hl⟩ := List.forall_mem_cons.mp hl
    exact hi (h.next hb hs) hl

end Corpus.IsListing

namespace Session

-- However a session has got there, its statistics are those of the catalog of what is listed.
theorem statistics_of_build (hb : Catalog.build sites = .ok catalog) (settings : Settings)
    (hl : ∀ step ∈ before, ListsOnly (.ok sites) step) (hm : m.listings.definitions = .ok sites) :
    let s := (run { settings := settings } before).2
    (s.perform m .countDefinitions).value = .count catalog.definitions.length ∧
      (s.perform m .failures).value = .failures catalog.failures := by
  intro s
  have hf : ({ settings := settings } : Session).index.Holds none := .empty rfl
  have hh := (run_eq hf before).right.left
  have hc : ((Operation.run none before).2.load m.listings.definitions).catalog? = some catalog := by
    rw [hm, (Corpus.IsListing.run (.inl rfl) hb hl).load hb, Corpus.catalog?_of_build hb]
  simp only [s, perform_value hh, Operation.next, Operation.reads, if_true, Operation.respond, hc,
    Option.elim_some, and_self]

end Session

end

end StepCatalog
