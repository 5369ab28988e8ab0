import Mathlib
import StepCatalog.Proofs.Session.Boundary

namespace StepCatalog

open DefinitionSite

/-! ### Warnings -/

-- What is logged of a definition that was set aside.
def Failure.warning (f : Failure) : LogRecord :=
  ⟨.warning, "Dropped step definition: " ++ f.error.message, none⟩

-- A record is a warning that a definition was set aside, by the words it begins with.
def LogRecord.isDropped (r : LogRecord) : Bool :=
  r.level = .warning && "Dropped step definition: ".toList.isPrefixOf r.message.toList

theorem Failure.isDropped_warning (f : Failure) : f.warning.isDropped := by
  simp [warning, LogRecord.isDropped]

theorem dropped_of_report (s : Snapshot) :
    s.report.filter LogRecord.isDropped = s.catalog.failures.map Failure.warning := by
  have hw : (s.catalog.failures.map Failure.warning).filter LogRecord.isDropped =
      s.catalog.failures.map Failure.warning :=
    List.filter_eq_self.mpr <| List.forall_mem_map.mpr fun f _ => f.isDropped_warning
  rw [Snapshot.report, List.filter_append]
  exact (congrArg (· ++ _) hw).trans <| List.append_nil _

section

variable [Runtime]

-- The warnings of a build, in the order of its corpus.
def warnings (sites : List DefinitionSite) : List LogRecord :=
  (sites.filterMap failure?).map Failure.warning

/-! ### Builds -/

-- The corpus that an operation builds the index from, if it does and succeeds. A read does so only
-- where the index is not built yet.
def Operation.built? (op : Operation) (l : Listings) (isBuilt : Bool) : Corpus :=
  match op with
  | rebuild sites => Corpus.put none <| sites.elim l.definitions .ok
  | op => if !op.reads || isBuilt then none else Corpus.put none l.definitions

theorem Operation.built?_of_reads {op : Operation} (hr : op.reads) (l : Listings)
    (isBuilt : Bool) :
    op.built? l isBuilt = if isBuilt then none else Corpus.put none l.definitions := by
  cases op
  case rebuild | invalidate | countFiles | countScenarios => contradiction
  all_goals simp [built?, reads]

/-! ### What an operation reports -/

namespace Answer

-- An answer of an index reports the build that there was, and nothing if there was none.
structure Reports (a : Answer α) (ix : Index) (built : Corpus) : Prop where
  dropped : a.log.filter LogRecord.isDropped = built.toList.flatMap warnings
  builds : a.session.index.builds = ix.builds + built.toList.length
  slot : ∀ sites ∈ built, ∃ catalog, Catalog.build sites = .ok catalog ∧
    a.session.index.slot = some ⟨catalog, a.session.index.builds⟩

namespace Reports

variable {a : Answer α} {ix : Index}

theorem unbuilt (hl : a.log.filter LogRecord.isDropped = [])
    (hb : a.session.index.builds = ix.builds) : a.Reports ix none :=
  ⟨hl, hb, nofun⟩

theorem map (h : a.Reports ix built) (f : α → β) : (a.map f).Reports ix built :=
  ⟨h.dropped, h.builds, h.slot⟩

-- What is logged of a fault is no warning.
theorem orEmpty {a : Answer (Except Fault α)} (h : a.Reports ix built) (empty : α)
    (message : String) : (a.orEmpty empty message).Reports ix built := by
  rw [Answer.orEmpty]
  split
  case h_1 => exact ⟨h.dropped, h.builds, h.slot⟩
  case h_2 =>
    refine ⟨?_, h.builds, h.slot⟩
    rw [List.filter_append, h.dropped]
    exact List.append_nil _

end Reports

end Answer

namespace Session

variable {s : Session}

theorem warnings_of_build (h : Catalog.build sites = .ok catalog) :
    catalog.failures.map Failure.warning = warnings sites := by
  have ⟨_, hc⟩ := Catalog.build_eq_ok_iff.mp h
  rw [hc, Catalog.ofSites, warnings]

theorem reports_of_build (h : Catalog.build sites = .ok catalog) (value : α) (s : Session)
    (loads : Nat) :
    let snapshot : Snapshot := ⟨catalog, s.index.builds + 1⟩
    let index : Index := ⟨some snapshot, s.index.builds + 1, loads⟩
    Answer.Reports ⟨value, { s with index := index }, snapshot.report⟩ s.index (some sites) where
  dropped := by simp [dropped_of_report, warnings_of_build h]
  builds := rfl
  slot _ hs := ⟨catalog, Option.some.inj hs ▸ h, rfl⟩

theorem rebuild_reports (s : Session) (l : Listings) (sites : Option (List DefinitionSite)) :
    (s.rebuild l sites).Reports s.index (Corpus.put none <| sites.elim l.definitions .ok) := by
  rw [rebuild]
  cases sites.elim l.definitions .ok
  case error e => exact .unbuilt rfl rfl
  case ok sites =>
    cases hb : Catalog.build sites
    case error e =>
      simp only [Index.rebuild, hb, Corpus.put_of_build_fails none hb]
      exact .unbuilt rfl rfl
    case ok catalog =>
      simp only [Index.rebuild, hb, Corpus.put_of_build none hb]
      exact reports_of_build hb () s _

theorem snapshot_reports (s : Session) (l : Listings) : (s.snapshot l).Reports s.index
    (if s.index.isBuilt then none else Corpus.put none l.definitions) := by
  rw [snapshot]
  cases hs : s.index.slot
  case some snapshot =>
    simp only [Index.snapshot, hs, Index.isBuilt, Option.isSome_some, if_true]
    exact .unbuilt rfl rfl
  case none =>
    simp only [Index.snapshot, hs, Index.isBuilt, Option.isSome_none, Bool.false_eq_true, if_false]
    cases l.definitions
    case error e => exact .unbuilt rfl rfl
    case ok sites =>
      cases hb : Catalog.build sites
      case error e =>
        simp only [Index.rebuild, hb, Corpus.put_of_build_fails none hb]
        exact .unbuilt (by split <;> rfl) rfl
      case ok catalog =>
        simp only [Index.rebuild, hb, Corpus.put_of_build none hb]
        exact reports_of_build hb (some _) s _

theorem ask_reports (s : Session) (l : Listings) (empty : α) (f : Snapshot → α) :
    (s.ask l empty f).Reports s.index
      (if s.index.isBuilt then none else Corpus.put none l.definitions) :=
  (s.snapshot_reports l).map _

theorem tryAsk_reports (s : Session) (l : Listings) (empty : α) (message : String)
    (f : Snapshot → Except Fault α) : (s.tryAsk l empty message f).Reports s.index
      (if s.index.isBuilt then none else Corpus.put none l.definitions) :=
  (s.ask_reports l _ f).orEmpty empty message

theorem perform_reports (s : Session) (m : Moment) (op : Operation) :
    (s.perform m op).Reports s.index (op.built? m.listings s.index.isBuilt) := by
  let s' : Session := { s with settings := m.settings }
  cases op
  case rebuild sites => exact (s'.rebuild_reports m.listings sites).map fun _ => Response.done
  case invalidate =>
    show Answer.Reports _ s.index none
    exact .unbuilt rfl rfl
  case countFiles | countScenarios =>
    rw [perform]
    show Answer.Reports _ s.index none
    exact ((Answer.Reports.unbuilt rfl rfl).orEmpty _ _).map _
  all_goals rw [Operation.built?_of_reads rfl, perform]
  case search | hasDefinition | findMissing => exact (s'.tryAsk_reports ..).map _
  case countMissing => exact ((s'.tryAsk_reports ..).map _).map _
  case countDefinitions | groupCounts | screenCounts | failures => exact (s'.ask_reports ..).map _

/-! ### Runs -/

-- The corpora that the index is built from in a run.
def corpora (s : Session) : List (Moment × Operation) → List (List DefinitionSite)
  | [] => []
  | (m, op) :: rest =>
    (op.built? m.listings s.index.isBuilt).toList ++ corpora (s.perform m op).session rest

theorem dropped_of_logged (s : Session) (steps : List (Moment × Operation)) :
    (s.logged steps).filter LogRecord.isDropped = (s.corpora steps).flatMap warnings := by
  induction steps generalizing s
  case nil => rfl
  case cons step steps hi =>
    rw [logged, corpora, List.filter_append, List.flatMap_append, hi, (perform_reports ..).dropped]

theorem run_builds (s : Session) (steps : List (Moment × Operation)) :
    (s.run steps).2.index.builds = s.index.builds + (s.corpora steps).length := by
  induction steps generalizing s
  case nil => rfl
  case cons step steps hi =>
    rw [run, hi, (perform_reports ..).builds, corpora, List.length_append, Nat.add_assoc]

theorem failures_of_mem_corpora {s : Session} (h : sites ∈ s.corpora steps) :
    ∃ catalog, Catalog.build sites = .ok catalog ∧ catalog.failures = sites.filterMap failure? := by
  induction steps generalizing s
  case nil => contradiction
  case cons step steps hi =>
    rcases List.mem_append.mp h with h | h
    case inl =>
      have ⟨catalog, hb, _⟩ := (perform_reports s step.1 step.2).slot sites <| Option.mem_toList.mp h
      have ⟨_, hc⟩ := Catalog.build_eq_ok_iff.mp hb
      exact ⟨catalog, hb, congrArg _ hc⟩
    case inr => exact hi h

-- The warnings of a run are those of its builds, each build once and its failures in the order of
-- its corpus. An operation that does not build warns of nothing.
theorem run_warns (s : Session) (steps : List (Moment × Operation)) :
    (∀ log, (Call.run steps).outcome s log =
      (.ok (s.run steps).1, (s.run steps).2, log ++ s.logged steps)) ∧
    (s.logged steps).filter LogRecord.isDropped =
      (s.corpora steps).flatMap (fun sites => (sites.filterMap failure?).map Failure.warning) ∧
    (∀ sites ∈ s.corpora steps, ∃ catalog, Catalog.build sites = .ok catalog ∧
      catalog.failures = sites.filterMap failure?) ∧
    (s.run steps).2.index.builds = s.index.builds + (s.corpora steps).length ∧
    ∀ m op, s.index.isBuilt ∧ op.reads ∨ (s.perform m op).session.index.builds = s.index.builds →
      (s.perform m op).log.filter LogRecord.isDropped = [] := by
  refine ⟨Call.run_outcome_logged steps s, dropped_of_logged s steps,
    fun _ => failures_of_mem_corpora, run_builds s steps, ?_⟩
  intro m op h
  have hr := s.perform_reports m op
  have hb : op.built? m.listings s.index.isBuilt = none := by
    rcases h with ⟨hb, ho⟩ | hb
    case inl => rw [Operation.built?_of_reads ho, if_pos hb]
    case inr =>
      have hl := hr.builds
      rw [hb, Nat.left_eq_add, List.length_eq_zero_iff] at hl
      exact Option.toList_eq_nil_iff.mp hl
  rw [hr.dropped, hb]
  rfl

end Session

end

namespace Session

-- A build for a read, another read, and a build that is asked for.
theorem run_warns_unclosed :
    let m : Moment := ⟨{}, { definitions := .ok [⟨"^(", "", 1, ""⟩, ⟨"ok", "", 2, ""⟩] }⟩
    let s : Session := {}
    let w := Failure.warning ⟨"^(", "missing ), unterminated subpattern at position 1"⟩
    (s.logged [(m, .failures), (m, .countDefinitions), (m, .rebuild none)]).filter
        LogRecord.isDropped = [w, w] ∧
      ((s.perform m .failures).session.perform m .countDefinitions).log.filter
        LogRecord.isDropped = [] := by
  intro m s w
  have ⟨_, hw, _⟩ := run_warns s [(m, .failures), (m, .countDefinitions), (m, .rebuild none)]
  have ⟨_, _, _, _, hr⟩ := run_warns (s.perform m .failures).session []
  refine ⟨hw.trans ?_, hr m .countDefinitions <| .inl ?_⟩
  case refine_1 => decide +kernel
  case refine_2 => decide +kernel

end Session

end StepCatalog
