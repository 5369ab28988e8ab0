import Mathlib
import StepCatalog.Proofs.Session.Machine

namespace StepCatalog

-- A call on a session comes to a value or raises a fault. What it has changed and logged until then
-- stays in either case.
abbrev Call := ExceptT Fault (StateM (Session × List LogRecord))

namespace Call

def outcome (c : Call α) (s : Session) (log : List LogRecord) :
    Except Fault α × Session × List LogRecord :=
  c.run.run (s, log) |>.run

/-! ### Parts of calls -/

def write (records : List LogRecord) : Call Unit :=
  modify fun (s, log) => (s, log ++ records)

def update (f : Session → Session) : Call Unit :=
  modify fun (s, log) => (f s, log)

def onIndex (f : Index → Except Fault α × Index) : Call α := do
  let (s, log) ← get
  let (result, index) := f s.index
  set ({ s with index := index }, log)
  MonadExcept.ofExcept result

-- A boundary: a fault is logged and goes no further.
def guarded (empty : α) (message : String) (body : Call α) : Call α :=
  tryCatch body fun e => do
    write [⟨.error, message, some e⟩]
    return empty

-- Asks something of the feature files.
def askFeatures (l : Listings) (f : Settings → List FeatureFile → α) : Call α := do
  let files ← MonadExcept.ofExcept l.features
  return f (← get).1.settings files

/-! ### What calls come to -/

section

variable {s : Session} {log : List LogRecord}

@[simp]
theorem outcome_pure (a : α) : (pure a : Call α).outcome s log = (.ok a, s, log) :=
  rfl

@[simp]
theorem outcome_bind (c : Call α) (f : α → Call β) : (c >>= f).outcome s log =
    match c.outcome s log with
    | (.ok a, s, log) => (f a).outcome s log
    | (.error e, s, log) => (.error e, s, log) := by
  simp only [outcome, ExceptT.run_bind, StateT.run_bind, Id.run_bind]
  rcases (ExceptT.run c |>.run (s, log)).run with ⟨_ | _, _⟩ <;> rfl

@[simp]
theorem outcome_map (f : α → β) (c : Call α) :
    (f <$> c).outcome s log = ((c.outcome s log).1.map f, (c.outcome s log).2) := by
  rw [map_eq_pure_bind, outcome_bind]
  rcases c.outcome s log with ⟨_ | _, _⟩ <;> rfl

@[simp]
theorem outcome_tryCatch (c : Call α) (h : Fault → Call α) : (tryCatch c h).outcome s log =
    match c.outcome s log with
    | (.ok a, s, log) => (.ok a, s, log)
    | (.error e, s, log) => (h e).outcome s log := by
  simp only [outcome, tryCatch, tryCatchThe, MonadExceptOf.tryCatch, ExceptT.tryCatch]
  show (StateT.run (ExceptT.run c >>= _) (s, log)).run = _
  simp only [StateT.run_bind, Id.run_bind]
  rcases (ExceptT.run c |>.run (s, log)).run with ⟨_ | _, _⟩ <;> rfl

@[simp]
theorem outcome_write (records : List LogRecord) :
    (write records).outcome s log = (.ok (), s, log ++ records) :=
  rfl

@[simp]
theorem outcome_update (f : Session → Session) :
    (update f).outcome s log = (.ok (), f s, log) :=
  rfl

@[simp]
theorem outcome_get :
    (get : Call (Session × List LogRecord)).outcome s log = (.ok (s, log), s, log) :=
  rfl

@[simp]
theorem outcome_ofExcept (x : Except Fault α) :
    (MonadExcept.ofExcept x : Call α).outcome s log = (x, s, log) := by
  cases x <;> rfl

@[simp]
theorem outcome_onIndex (f : Index → Except Fault α × Index) : (onIndex f).outcome s log =
    ((f s.index).1, { s with index := (f s.index).2 }, log) := by
  exact outcome_ofExcept (f s.index).1

end

-- What a call comes to is an answer, or the fault in place of one.
def Yields (c : Call α) (a : Session → Answer (Except Fault α)) : Prop :=
  ∀ s log, c.outcome s log = ((a s).value, (a s).session, log ++ (a s).log)

-- What a call comes to is an answer. It raises nothing.
def Returns (c : Call α) (a : Session → Answer α) : Prop :=
  ∀ s log, c.outcome s log = (.ok (a s).value, (a s).session, log ++ (a s).log)

theorem Yields.guarded {c : Call α} (h : c.Yields a) (empty : α) (message : String) :
    (guarded empty message c).Returns fun s => (a s).orEmpty empty message := by
  intro s log
  rw [Call.guarded, outcome_tryCatch, h]
  cases hv : (a s).value <;> simp [Answer.orEmpty, hv, Except.map]

theorem Returns.map {c : Call α} (h : c.Returns a) (f : α → β) :
    (f <$> c).Returns fun s => (a s).map f := by
  intro s log
  rw [outcome_map, h]
  rfl

theorem askFeatures_yields (l : Listings) (f : Settings → List FeatureFile → α) :
    (askFeatures l f).Yields fun s => ⟨l.features.map (f s.settings), s, []⟩ := by
  intro s log
  cases h : l.features <;> simp [askFeatures, h, Except.map]

/-! ### Counts -/

def countFiles (l : Listings) : Call Nat :=
  guarded 0 "Counting feature files failed" <|
    askFeatures l fun settings => Exclusion.fileCount settings.fragments

def countScenarios (l : Listings) : Call Int :=
  guarded 0 "Counting scenarios failed" <|
    askFeatures l fun settings => Exclusion.scenarioCount settings.fragments

theorem countFiles_returns (l : Listings) : (countFiles l).Returns (·.countFiles l) :=
  Yields.guarded (askFeatures_yields l _) _ _

theorem countScenarios_returns (l : Listings) : (countScenarios l).Returns (·.countScenarios l) :=
  Yields.guarded (askFeatures_yields l _) _ _

section

variable [Runtime]

-- The current snapshot. This is a boundary too, with records of its own.
def snapshot (l : Listings) : Call (Option Snapshot) := do
  let wasBuilt := (← get).1.index.isBuilt
  let found ← tryCatch (some <$> onIndex (·.snapshot (some l.definitions))) fun e => do
    write [if e.kind = .unavailable then ⟨.info, "Step index unavailable: " ++ e.message, none⟩
      else ⟨.error, "Step index build failed", some e⟩]
    return none
  if let some snapshot := found then
    unless wasBuilt do write snapshot.report
  return found

-- Asks something of the current snapshot, which raises a fault where that fails.
def ask (l : Listings) (empty : α) (f : Settings → Snapshot → Except Fault α) : Call α := do
  match ← snapshot l with
  | none => return empty
  | some snapshot => MonadExcept.ofExcept <| f (← get).1.settings snapshot

/-! ### Operations -/

def rebuild (l : Listings) (sites : Option (List DefinitionSite)) : Call Unit := do
  let built ← guarded none "Step index rebuild failed" do
    let sites ← MonadExcept.ofExcept <| sites.elim l.definitions .ok
    some <$> onIndex (·.rebuild sites)
  if let some snapshot := built then
    write snapshot.report

def search (l : Listings) (query : Json) (filter : Search.Filter) : Call (List StepReference) :=
  guarded [] ("Step search failed for query " ++ query.describe) <|
    ask l [] fun _ snapshot => do
      return Search.findSteps snapshot.catalog.definitions filter (← Session.textOf query)

def hasDefinition (l : Listings) (text : Json) : Call Bool :=
  guarded false ("Step lookup failed for " ++ text.describe) <|
    ask l false fun _ snapshot => do
      (StepCatalog.hasDefinition snapshot.catalog.patterns (← Session.textOf text)).mapError
        .matching

def findMissing (l : Listings) (refs : Option (List StepReference)) : Call (List StepReference) :=
  guarded [] "Missing-step reconciliation failed" <|
    ask l [] fun settings snapshot => do
      let refs ← match refs with
        | none => l.features.map fun files =>
          collectReferences <| Exclusion.keptFiles settings.fragments files
        | some refs => .ok <| Exclusion.keptReferences settings.fragments refs
      (missingSteps snapshot.catalog.patterns refs).mapError .matching

-- The statistics have no boundary of their own.
def statistic (l : Listings) (empty : α) (f : Catalog → α) : Call α :=
  ask l empty fun _ snapshot => .ok <| f snapshot.catalog

def respond (l : Listings) : Operation → Call Response
  | .rebuild sites       => (fun _ => .done) <$> rebuild l sites
  | .invalidate          => (fun _ => .done) <$> update Session.invalidate
  | .search query filter => .references <$> search l query filter
  | .hasDefinition text  => .verdict <$> hasDefinition l text
  | .findMissing refs    => .references <$> findMissing l refs
  | .countMissing        => (fun refs => .count refs.length) <$> findMissing l none
  | .countFiles          => (fun n : Nat => .count n) <$> countFiles l
  | .countScenarios      => .count <$> countScenarios l
  | .countDefinitions    => (fun n : Nat => .count n) <$> statistic l 0 (·.definitions.length)
  | .groupCounts         => .counts <$> statistic l [] Catalog.groupCounts
  | .screenCounts        => .counts <$> statistic l [] Catalog.screenCounts
  | .failures            => .failures <$> statistic l [] Catalog.failures

def perform (m : Moment) (op : Operation) : Call Response := do
  update ({ · with settings := m.settings })
  respond m.listings op

def run (steps : List (Moment × Operation)) : Call (List Response) :=
  steps.mapM fun step => perform step.1 step.2

/-! ### What operations come to -/

theorem snapshot_returns (l : Listings) : (snapshot l).Returns (·.snapshot l) := by
  intro s log
  simp only [snapshot, Session.snapshot]
  rcases hi : s.index.snapshot (some l.definitions) with ⟨e | snapshot, index⟩
  case error => simp [hi, Except.map]
  case ok => cases hb : s.index.isBuilt <;> simp [hi, hb, Except.map]

theorem ask_yields (l : Listings) (empty : α) (f : Settings → Snapshot → Except Fault α) :
    (ask l empty f).Yields fun s => s.ask l (.ok empty) (f s.settings) := by
  intro s log
  have hs : (s.snapshot l).session.settings = s.settings := by rw [Session.snapshot_session]
  simp only [ask, outcome_bind, snapshot_returns l s log, Session.ask, Answer.map]
  cases (s.snapshot l).value <;> simp [hs]

theorem statistic_returns (l : Listings) (empty : α) (f : Catalog → α) :
    (statistic l empty f).Returns fun s => s.ask l empty fun snapshot => f snapshot.catalog := by
  intro s log
  rw [statistic, ask_yields]
  simp only [Session.ask, Answer.map]
  cases (s.snapshot l).value <;> rfl

theorem rebuild_returns (l : Listings) (sites : Option (List DefinitionSite)) :
    (rebuild l sites).Returns (·.rebuild l sites) := by
  intro s log
  simp only [rebuild, guarded, Session.rebuild]
  cases sites.elim l.definitions .ok
  case error e => simp [Except.map]
  case ok sites =>
    rcases hi : s.index.rebuild sites with ⟨e | snapshot, index⟩ <;> simp [hi, Except.map]

theorem search_returns (l : Listings) (query : Json) (filter : Search.Filter) :
    (search l query filter).Returns (·.search l query filter) :=
  Yields.guarded (ask_yields l _ _) _ _

theorem hasDefinition_returns (l : Listings) (text : Json) :
    (hasDefinition l text).Returns (·.hasDefinition l text) :=
  Yields.guarded (ask_yields l _ _) _ _

theorem findMissing_returns (l : Listings) (refs : Option (List StepReference)) :
    (findMissing l refs).Returns (·.findMissing l refs) := by
  cases refs <;> exact Yields.guarded (ask_yields l _ _) _ _

theorem perform_returns (m : Moment) (op : Operation) :
    (perform m op).Returns (·.perform m op) := by
  intro s log
  simp only [perform, outcome_bind, outcome_update]
  cases op
  case rebuild sites       => exact Returns.map (rebuild_returns _ sites) _ _ log
  case invalidate          => simp [respond, Session.perform, Except.map]
  case search query filter => exact Returns.map (search_returns _ query filter) _ _ log
  case hasDefinition text  => exact Returns.map (hasDefinition_returns _ text) _ _ log
  case findMissing refs    => exact Returns.map (findMissing_returns _ refs) _ _ log
  case countMissing        => exact Returns.map (findMissing_returns _ none) _ _ log
  case countFiles          => exact Returns.map (countFiles_returns _) _ _ log
  case countScenarios      => exact Returns.map (countScenarios_returns _) _ _ log
  all_goals exact Returns.map (statistic_returns _ _ _) _ _ log

theorem run_outcome_logged (steps : List (Moment × Operation)) (s : Session)
    (log : List LogRecord) : (run steps).outcome s log =
      (.ok (s.run steps).1, (s.run steps).2, log ++ s.logged steps) := by
  induction steps generalizing s log
  case nil => simp [run, Session.run, Session.logged]
  case cons step steps hi =>
    have h := hi (s.perform step.1 step.2).session (log ++ (s.perform step.1 step.2).log)
    simp only [run] at h
    simp [run, List.mapM_cons, perform_returns _ _ _ _, h, Session.run, Session.logged, Except.map]

-- No operation of a run raises anything.
theorem run_outcome (steps : List (Moment × Operation)) (s : Session) (log : List LogRecord) :
    ∃ log', (run steps).outcome s log = (.ok (s.run steps).1, (s.run steps).2, log') :=
  ⟨_, run_outcome_logged steps s log⟩

end

end Call

section

variable [Runtime]

/-! ### Listings that fail -/

namespace Operation

variable {op : Operation}

-- The response of an operation that gives up.
def empty : Operation → Response
  | rebuild _ | invalidate => .done
  | search .. | findMissing _ => .references []
  | hasDefinition _ => .verdict false
  | countMissing | countFiles | countScenarios | countDefinitions => .count 0
  | groupCounts | screenCounts => .counts []
  | failures => .failures []

-- The operations that need the listed definitions, if only to build the index where it is empty.
def needsDefinitions : Operation → Bool
  | rebuild none => true
  | op => op.reads

def needsFeatures : Operation → Bool
  | findMissing none | countMissing | countFiles | countScenarios => true
  | _ => false

-- A listing fails that the operation needs, and the index does not serve it instead.
inductive Lacks (op : Operation) (l : Listings) (built : Bool) : Prop
  | definitions (fails : l.definitions = .error e) (needs : op.needsDefinitions)
    (unserved : op.reads → built = false)
  | features (fails : l.features = .error e) (needs : op.needsFeatures)

theorem next_of_reads (hr : op.reads) (l : Listings) (c : Corpus) :
    op.next l c = c.load l.definitions := by
  cases op <;> first | rfl | contradiction

theorem respond_none (hr : op.reads) : respond op settings features none = op.empty := by
  cases op <;> first | rfl | contradiction

end Operation

namespace Session

variable {s s' : Session} {m m' : Moment} {op : Operation}

theorem perform_of_definitions_fail (he : m.listings.definitions = .error e)
    (hn : op.needsDefinitions) (hb : op.reads → s.index.isBuilt = false) :
    (s.perform m op).value = op.empty := by
  by_cases hr : op.reads
  case pos =>
    have hs : s.index.slot = none := by simpa [Index.isBuilt] using hb hr
    have hl : (Corpus.load none m.listings.definitions).catalog? = none := by rw [he]; rfl
    rw [perform_value <| .empty hs, Operation.next_of_reads hr, hl, Operation.respond_none hr]
  case neg =>
    cases op
    case rebuild => rfl
    all_goals exact absurd hn hr

theorem findMissing_of_features_fail (he : l.features = .error e) :
    (s.findMissing l none).value = [] := by
  simp only [findMissing, tryAsk, orEmpty_value, ask, Answer.map, references, he]
  cases (s.snapshot l).value <;> rfl

theorem perform_of_features_fail (he : m.listings.features = .error e) (hn : op.needsFeatures) :
    (s.perform m op).value = op.empty := by
  cases op
  case findMissing refs =>
    cases refs
    case none => exact congrArg Response.references <| findMissing_of_features_fail he
    case some => contradiction
  case countMissing =>
    exact congrArg (fun refs : List StepReference => Response.count refs.length) <|
      findMissing_of_features_fail he
  case countFiles | countScenarios =>
    simp [perform, Answer.map, countFiles, countScenarios, orEmpty_value, he, Except.map,
      Except.toOption, Operation.empty]
  all_goals contradiction

theorem perform_of_lacks (h : op.Lacks m.listings s.index.isBuilt) :
    (s.perform m op).value = op.empty := by
  cases h
  case definitions he hn hb => exact perform_of_definitions_fail he hn hb
  case features he hn       => exact perform_of_features_fail he hn

/-! ### Listings that do not matter -/

theorem snapshot_congr (h : l.definitions = l'.definitions) : s.snapshot l = s.snapshot l' := by
  simp only [snapshot, h]

-- Whatever feature files are listed, an operation leaves the same session behind.
theorem perform_session_congr (hs : m.settings = m'.settings)
    (hd : m.listings.definitions = m'.listings.definitions) (op : Operation) :
    (s.perform m op).session = (s.perform m' op).session := by
  by_cases hr : op.reads
  case pos => rw [perform_session hr, perform_session hr, hs, snapshot_congr hd]
  case neg =>
    cases op
    case rebuild => simp only [perform, Answer.map, rebuild, hs, hd]
    case invalidate => simp only [perform, hs]
    case countFiles | countScenarios =>
      simp only [perform, Answer.map, countFiles, countScenarios, orEmpty_session, hs]
    all_goals exact absurd rfl hr

theorem perform_of_not_needsFeatures (hs : m.settings = m'.settings)
    (hd : m.listings.definitions = m'.listings.definitions) (hn : ¬op.needsFeatures) :
    s.perform m op = s.perform m' op := by
  cases op
  case findMissing refs =>
    cases refs
    case none => exact absurd rfl hn
    case some =>
      simp only [perform, findMissing, tryAsk, ask, references, snapshot_congr hd, hs]
  case countMissing | countFiles | countScenarios => exact absurd rfl hn
  case rebuild => simp only [perform, rebuild, hs, hd]
  case invalidate => simp only [perform, hs]
  all_goals
    simp only [perform, search, hasDefinition, countDefinitions, groupCounts, screenCounts,
      failures, tryAsk, ask, snapshot_congr hd, hs]

theorem perform_of_not_needsDefinitions (hs : m.settings = m'.settings)
    (hf : m.listings.features = m'.listings.features) (hn : ¬op.needsDefinitions) :
    (s.perform m op).value = (s'.perform m' op).value := by
  cases op
  case countFiles | countScenarios =>
    simp only [perform, Answer.map, countFiles, countScenarios, orEmpty_value, hs, hf]
  case rebuild | invalidate => rfl
  all_goals exact absurd rfl hn

-- Two runs of the same operations at moments that are alike in some way respond alike to those
-- operations for which that is enough, if every operation keeps the sessions as they have to be.
theorem run_congr {Like : Moment → Moment → Prop} (Fits : Session → Session → Prop)
    {counts : Operation → Prop} {steps steps' : List (Moment × Operation)}
    (hk : ∀ {s s' m m'} op, Fits s s' → Like m m' →
      Fits (s.perform m op).session (s'.perform m' op).session)
    (hv : ∀ {s s' m m' op}, Fits s s' → Like m m' → counts op →
      (s.perform m op).value = (s'.perform m' op).value)
    (hs : Fits s s') (h : List.Forall₂ (fun a b => Like a.1 b.1 ∧ a.2 = b.2) steps steps') :
    ∀ (i : Nat) m op, steps[i]? = some (m, op) → counts op →
      (s.run steps).1[i]? = (s'.run steps').1[i]? := by
  induction h generalizing s s'
  case nil => simp
  case cons a b _ _ hab _ hi =>
    have ⟨m, op⟩ := a
    have ⟨m', op'⟩ := b
    have ⟨hm, ho⟩ := hab
    subst ho
    intro i n op' hn hc
    cases i
    case zero =>
      cases hn
      simpa [run] using hv hs hm hc
    case succ i => exact hi (hk op hs hm) i n op' hn hc

-- Two moments at which nothing but the listed feature files may differ.
def AlikeButFeatures (m m' : Moment) : Prop :=
  m.settings = m'.settings ∧ m.listings.definitions = m'.listings.definitions

-- Two moments at which nothing but the listed definitions may differ.
def AlikeButDefinitions (m m' : Moment) : Prop :=
  m.settings = m'.settings ∧ m.listings.features = m'.listings.features

-- No operation of a run raises a fault, whatever fails. An operation that lacks a listing gives up
-- with an empty response, and one that does not need a listing responds as if that had not failed.
theorem run_total (s : Session) (steps : List (Moment × Operation)) :
    (∀ log, ∃ log', (Call.run steps).outcome s log = (.ok (s.run steps).1, (s.run steps).2, log')) ∧
    (∀ m op, op.Lacks m.listings (s.run steps).2.index.isBuilt →
      ((s.run steps).2.perform m op).value = op.empty) ∧
    (∀ steps', List.Forall₂ (fun a b => AlikeButFeatures a.1 b.1 ∧ a.2 = b.2) steps steps' →
      ∀ (i : Nat) m op, steps[i]? = some (m, op) → ¬op.needsFeatures →
        (s.run steps).1[i]? = (s.run steps').1[i]?) ∧
    ∀ steps', List.Forall₂ (fun a b => AlikeButDefinitions a.1 b.1 ∧ a.2 = b.2) steps steps' →
      ∀ (i : Nat) m op, steps[i]? = some (m, op) → ¬op.needsDefinitions →
        (s.run steps).1[i]? = (s.run steps').1[i]? := by
  refine ⟨Call.run_outcome steps s, fun _ _ => perform_of_lacks, ?_, ?_⟩
  case refine_1 =>
    -- Both runs go through the same sessions.
    intro steps' h
    refine run_congr Eq ?_ ?_ rfl h
    case refine_1 =>
      intro s _ m m' op hs ⟨hm, hd⟩
      exact hs ▸ perform_session_congr hm hd op
    case refine_2 =>
      intro s _ m m' op hs ⟨hm, hd⟩ hn
      exact hs ▸ congrArg Answer.value (perform_of_not_needsFeatures hm hd hn)
  case refine_2 =>
    -- The sessions may differ in what has been built.
    intro steps' h
    refine run_congr (fun _ _ => True) ?_ ?_ trivial h
    case refine_1 => exact fun _ _ _ => trivial
    case refine_2 => exact fun _ ⟨hm, hf⟩ => perform_of_not_needsDefinitions hm hf

end Session

end

namespace Session

-- A source that lists neither definitions nor feature files.
theorem run_total_broken :
    let m : Moment := ⟨{}, .error <| .listing "down", .error <| .listing "down"⟩
    Operation.Lacks .countMissing m.listings false ∧
      (({} : Session).perform m .countMissing).value = .count 0 := by
  intro m
  have hl : Operation.Lacks .countMissing m.listings false := .definitions rfl rfl fun _ => rfl
  exact ⟨hl, (run_total {} []).2.1 m .countMissing hl⟩

end Session

end StepCatalog
