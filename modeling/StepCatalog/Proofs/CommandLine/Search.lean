import Mathlib
import StepCatalog.CommandLine.SearchSteps
import StepCatalog.Proofs.Catalog.Parts
import StepCatalog.Proofs.CommandLine.Ending
import StepCatalog.Proofs.CommandLine.Options
import StepCatalog.Proofs.Extract.Lines
import StepCatalog.Proofs.Report
import StepCatalog.Proofs.Search.Ranking
import StepCatalog.Proofs.Session.Machine

namespace StepCatalog.CommandLine.SearchSteps

/-! ### Ranges -/

-- All lines are within the range of a dialect.
def InRange (d : Json.Dialect) (refs : List StepReference) : Prop :=
  d = .strict → ∀ r ∈ refs, r.line < 2 ^ 64

theorem inRange_lenient [Runtime] (refs : List StepReference) : InRange .lenient refs :=
  fun h => absurd h Json.Dialect.lenient_ne_strict

theorem inRange_iff [Runtime] (hd : d ∈ Json.Dialect.all) (hl : ∀ r ∈ refs, 1 ≤ r.line) :
    InRange d refs ↔ ∀ r ∈ refs, d.holds r.line := by
  rcases Json.Dialect.mem_all_iff.mp hd with rfl | rfl
  case inr => exact iff_of_true (inRange_lenient refs) fun _ _ => rfl
  case inl =>
    simp only [InRange, forall_const]
    refine forall₂_congr fun r hr => ?_
    have := hl r hr
    simp only [Json.Dialect.holds, Json.Dialect.strict, Option.all_some, Bool.and_eq_true,
      decide_eq_true_eq]
    norm_num
    omega

/-! ### Requests -/

theorem kind_of_maxResults :
    ∀ o ∈ helpOption :: specs, o.key = "--max-results" → o.kind = .integer := by
  decide

theorem exists_filter_iff {r : Request} :
    (∃ filter, r.filter = .ok filter) ↔ .nothing ∉ r.groups := by
  have hm : (∃ groups, r.groups.mapM (·.textOr .noSetMember) = .ok groups) ↔
      .nothing ∉ r.groups := by
    rw [exists_mapM_iff]
    constructor
    case mp =>
      intro h hn
      have ⟨_, ht⟩ := h _ hn
      contradiction
    case mpr =>
      intro h v hv
      cases v
      case text s => exact ⟨s, rfl⟩
      case nothing => exact absurd hv h
  rw [← hm]
  unfold Request.filter
  cases r.groups.mapM (·.textOr .noSetMember) <;> simp [bind, Except.bind, pure, Except.pure]

section

variable [Runtime]

-- A number of results is asked for, or the default one, unless two dashes stand in its place.
theorem exists_maxResults_iff (h : parse specs args = .ok p) :
    (∃ n, (Request.ofParsed p).maxResults = some n) ↔ p.last? "--max-results" ≠ some .nothing := by
  simp only [Request.ofParsed]
  cases hl : p.last? "--max-results"
  case none => simp
  case some v =>
    cases v
    case nothing => simp
    case text s =>
      have ⟨n, hn⟩ := readInteger_of_mem_all kind_of_maxResults h <| List.mem_of_getLast? hl
      simp [hn, Except.toOption]

/-! ### Results -/

-- What a search of the definitions finds.
def found (l : Listings) (sites : List DefinitionSite) (query : Json) (filter : Search.Filter) :
    List StepReference :=
  ((Session.rebuild {} l (some sites)).session.search l query filter).value

-- These are shown: the first results, as many as are asked for, or all of them where no positive
-- number of results is asked for.
def Shows (r : Request) (l : Listings) (sites : List DefinitionSite) (shown : List StepReference) :
    Prop :=
  ∃ filter n, r.filter = .ok filter ∧ r.maxResults = some n ∧
    shown = if 0 < n then (found l sites r.query.toJson filter).take n.toNat
      else found l sites r.query.toJson filter

-- The groups and the number of results have been given, unless the runtime has no value for dashes.
theorem isGiven_iff (h : parse specs args = .ok p) :
    (.nothing ∉ p.all "--group" ∧ p.last? "--max-results" ≠ some .nothing) ↔
      (Runtime.keepsDashes = false →
        .nothing ∉ p.all "--group" ∧ p.last? "--max-results" ≠ some .nothing) := by
  constructor
  case mp => exact fun hg _ => hg
  case mpr =>
    intro hg
    cases hd : Runtime.keepsDashes
    case false => exact hg hd
    case true =>
      refine ⟨nothing_notMem_all hd (by decide) h, fun hl => ?_⟩
      exact nothing_notMem_all hd (by decide) h <| List.mem_of_getLast? hl

theorem exists_shows_iff (h : parse specs args = .ok p) :
    (∃ shown, Shows (.ofParsed p) l sites shown) ↔
      (Runtime.keepsDashes = false →
        .nothing ∉ p.all "--group" ∧ p.last? "--max-results" ≠ some .nothing) := by
  rw [← isGiven_iff h, ← exists_maxResults_iff h,
    show p.all "--group" = (Request.ofParsed p).groups from rfl, ← exists_filter_iff]
  simp [Shows]

theorem rebuild_holds (l : Listings) (sites : List DefinitionSite) :
    (Session.rebuild {} l (some sites)).session.index.Holds (Corpus.put none <| .ok sites) :=
  Session.rebuild_holds (.empty rfl) l (some sites)

section

variable {l : Listings} {sites : List DefinitionSite} (hl : l.definitions = .ok sites)

include hl

theorem found_eq : found l sites query filter =
    (Catalog.build sites).toOption.elim [] fun c =>
      (Session.textOf query).toOption.elim [] <| Search.findSteps c.definitions filter := by
  rw [found, Session.search_value (rebuild_holds l sites), hl, Corpus.load_put_none,
    Corpus.catalog?_put_none]

theorem exists_line_of_mem_found (h : r ∈ found l sites query filter) :
    ∃ s ∈ sites, s.line = r.line := by
  rw [found_eq hl] at h
  cases hb : Catalog.build sites
  case error => simp [hb, Except.toOption] at h
  case ok c =>
    cases hq : Session.textOf query
    case error => simp [hb, hq, Except.toOption] at h
    case ok q =>
      simp only [hb, hq, Except.toOption, Option.elim_some] at h
      obtain ⟨d, hd, rfl⟩ := Search.exists_of_mem_findSteps h
      obtain ⟨s, hs, hd⟩ := Catalog.exists_defines_of_build hb hd
      exact ⟨s, hs, hd.line.symm⟩

theorem exists_line_of_shows (h : Shows r l sites shown) (hx : x ∈ shown) :
    ∃ s ∈ sites, s.line = x.line := by
  obtain ⟨filter, n, _, _, rfl⟩ := h
  split at hx
  case isTrue => exact exists_line_of_mem_found hl <| List.mem_of_mem_take hx
  case isFalse => exact exists_line_of_mem_found hl hx

end

/-! ### The answer -/

-- The session that is searched. The definitions in it have been counted before, which makes no
-- difference to what is found.
def counted (l : Listings) (sites : List DefinitionSite) : Session :=
  let rebuilt := Session.rebuild {} l (some sites)
  let total := rebuilt.session.countDefinitions l
  (total.session.failures l).session

theorem counted_holds (hl : l.definitions = .ok sites) :
    (counted l sites).index.Holds (Corpus.put none <| .ok sites) := by
  have ask {α : Type} (s : Session) (h : s.index.Holds <| Corpus.put none <| .ok sites)
      (empty : α) (f : Snapshot → α) :
      (s.ask l empty f).session.index.Holds (Corpus.put none <| .ok sites) := by
    have := Session.ask_holds h l empty f
    rwa [hl, Corpus.load_put_none] at this
  exact ask _ (ask _ (rebuild_holds l sites) _ _) _ _

theorem search_counted (hl : l.definitions = .ok sites) (query : Json) (filter : Search.Filter) :
    ((counted l sites).search l query filter).value = found l sites query filter := by
  rw [found, Session.search_value (counted_holds hl), Session.search_value (rebuild_holds l sites)]

def listings (env : Environment) (path : Path) : Listings where
  definitions := Extract.definitions env.dialect env.files path

variable {env : Environment} {path : Path} {sites : List DefinitionSite}

section

variable {r : Request} (hg : r.listGroups = false) (hs : r.listScreens = false)

include hg hs

theorem answer_eq_of_shows (hl : Extract.definitions env.dialect env.files path = .ok sites)
    (h : Shows r (listings env path) sites shown) :
    ∃ notices, answer env r path sites = .finish env notices 0 (Report.references shown) := by
  obtain ⟨filter, n, hf, hn, rfl⟩ := h
  have ht (hits : List StepReference) :
      r.limit hits = .ok (if 0 < n then hits.take n.toNat else hits) := by
    rw [Request.limit, hn]
  simp only [answer, hg, hs, hf, ht, Bool.false_eq_true, if_false]
  refine ⟨?notices, ?eq⟩
  case eq =>
    rw [← search_counted (show (listings env path).definitions = .ok sites from hl)]
    rfl

-- Without the filter or the number there is nothing to show, and no success.
theorem exists_shows_of_answer (h : (answer env r path sites).ending = .exit 0) :
    ∃ shown, Shows r (listings env path) sites shown := by
  cases hf : r.filter
  case error e => simp [answer, hg, hs, hf] at h
  case ok filter =>
    cases hn : r.maxResults
    case none => simp [answer, hg, hs, hf, Request.limit, hn] at h
    case some n => exact ⟨_, filter, n, hf, hn, rfl⟩

end

/-! ### The run -/

-- The definitions that are named can be read, and neither help nor a list is asked for.
structure Reads (env : Environment) (p : Parsed) (path : Path) (sites : List DefinitionSite) :
    Prop where
  help : p.help = false
  groups : p.has "--list-groups" = false
  screens : p.has "--list-screens" = false
  named : (Request.ofParsed p).definitions.path = .ok path
  definitions : Extract.definitions env.dialect env.files path = .ok sites

-- Definitions are read from files only, so what can be read is there.
theorem require_of_definitions {v : OptionValue} (hv : v.path = .ok path)
    (hd : Extract.definitions env.dialect env.files path = .ok sites) (what : String) :
    env.require what v = .ok path := by
  have ⟨_, hl, _⟩ := bind_eq_ok_iff.mp hd
  have ⟨_, hb, _⟩ := bind_eq_ok_iff.mp hl
  have hc := FileTree.contains_of_read <| mapError_eq_ok_iff.mp hb
  simp only [Environment.require, hv, bind, Except.bind, hc]
  rfl

theorem run_eq_answer (h : parse specs args = .ok p) (hr : Reads env p path sites) :
    run env args = answer env (.ofParsed p) path sites := by
  have hv := require_of_definitions hr.named hr.definitions "definitions file"
  simp only [run, runWith, h, hr.help, hv, bind, Except.bind, hr.definitions]
  rfl

section

variable (hd : env.dialect ∈ Json.Dialect.all) (h : parse specs args = .ok p)
  (hr : Reads env p path sites) (hs : Shows (.ofParsed p) (listings env path) sites shown)

include hr hs

theorem bounds_of_shows : ∀ x ∈ shown, 1 ≤ x.line ∧ x.line.natAbs < 10 ^ Text.maxDigits := by
  intro x hx
  have ⟨s, hs, he⟩ := exists_line_of_shows hr.definitions hs hx
  exact he ▸ Extract.definitions_haveBoundedLines hr.definitions s hs

include hd h

-- The lines decide alone whether the run comes to a good end.
theorem run_ending_iff_of_shows : (run env args).ending = .exit 0 ↔ InRange env.dialect shown := by
  have hd' := Json.Dialect.handles_of_mem hd
  have ⟨notices, ha⟩ := answer_eq_of_shows hr.groups hr.screens hr.definitions hs
  rw [run_eq_answer h hr, ha, inRange_iff hd fun x hx => (bounds_of_shows hr hs x hx).left]
  constructor
  case mp =>
    intro h
    exact (Report.printed_references_eq_ok_iff hd').mp (Transcript.finish_ending_iff.mp h) |>.left
  case mpr =>
    intro h
    have := (Report.printed_references_eq_ok_iff hd').mpr ⟨h, rfl⟩
    simp [Transcript.finish, this]

theorem decode_output_of_shows (he : (run env args).ending = .exit 0) (hd' : d ∈ Json.Dialect.all)
    (h' : InRange d shown) :
    Json.decode d (run env args).output.toUTF8 = .ok (Report.references shown) := by
  have ⟨notices, ha⟩ := answer_eq_of_shows hr.groups hr.screens hr.definitions hs
  rw [run_eq_answer h hr, ha] at he ⊢
  have hb := bounds_of_shows hr hs
  refine Report.decode_printed_references (Json.Dialect.handles_of_mem hd)
    (Json.Dialect.handles_of_mem hd') (Transcript.finish_ending_iff.mp he) fun x hx => ?_
  exact ⟨(inRange_iff hd' fun x hx => (hb x hx).left).mp h' x hx, (hb x hx).right⟩

end

-- A search succeeds just if it can tell what to show and the lines in that are within the range of
-- the dialect; it can tell unless two dashes stand in place of a group or of the number of results,
-- where the runtime has no value for those. What it prints then is one document, the same for every
-- dialect that has the lines in its range. That leaves out files with halves of surrogate pairs, as
-- what is printed of two such halves in a row is read as one character.
theorem run_prints_iff (hd : env.dialect ∈ Json.Dialect.all) (h : parse specs args = .ok p)
    (hr : Reads env p path sites) :
    ((∃ shown, Shows (.ofParsed p) (listings env path) sites shown) ↔
      (Runtime.keepsDashes = false →
        .nothing ∉ p.all "--group" ∧ p.last? "--max-results" ≠ some .nothing)) ∧
    ((run env args).ending = .exit 0 ↔
      ∃ shown, Shows (.ofParsed p) (listings env path) sites shown ∧ InRange env.dialect shown) ∧
    (Extract.definitions env.dialect.whole env.files path = .ok sites →
      ∀ shown, Shows (.ofParsed p) (listings env path) sites shown → InRange env.dialect shown →
        ∀ d ∈ Json.Dialect.all, InRange d shown →
          Json.decode d (run env args).output.toUTF8 = .ok (Report.references shown)) := by
  refine ⟨exists_shows_iff h, ⟨?_, ?_⟩, ?_⟩
  case refine_1 =>
    intro he
    have ha := he
    rw [run_eq_answer h hr] at ha
    have ⟨shown, hs⟩ := exists_shows_of_answer hr.groups hr.screens ha
    exact ⟨shown, hs, (run_ending_iff_of_shows hd h hr hs).mp he⟩
  case refine_2 => exact fun ⟨_, hs, hi⟩ => (run_ending_iff_of_shows hd h hr hs).mpr hi
  case refine_3 =>
    intro _ shown hs hi d hd' hi'
    exact decode_output_of_shows hd h hr hs ((run_ending_iff_of_shows hd h hr hs).mpr hi) hd' hi'

end

/-! ### A single definition -/

-- A file with one definition, whose line is given as a numeral.
def singleton (d : Json.Dialect) (line : String) : Environment where
  files := ⟨[(⟨"", ["d"]⟩, .file ("\x7b\"text\": \"a\", \"group_label\": \"g\", \"line\": \"" ++
    line ++ "\"\x7d").toUTF8)]⟩
  dialect := d

def searchArgs : List String := ["--definitions", "d"]

def searchParsed : Parsed where
  values := [("--definitions", .text "d")]

theorem parse_searchArgs : parse specs searchArgs = .ok searchParsed := by
  decide +kernel

theorem singleton_reads {d : Json.Dialect} {line : String}
    (h : Extract.definitions d (singleton d line).files ⟨"", ["d"]⟩ = .ok sites) :
    Reads (singleton d line) searchParsed ⟨"", ["d"]⟩ sites where
  help := rfl
  groups := by decide
  screens := by decide
  named := by cbv
  definitions := h

-- A blank query finds the definition.
theorem singleton_shows {l : Listings} (hl : l.definitions = .ok [⟨"a", "", n, "g"⟩])
    (hn : n = 7 ∨ n = 2 ^ 64) :
    Shows (.ofParsed searchParsed) l [⟨"a", "", n, "g"⟩] [⟨"a", "", n⟩] := by
  have hf : found l [⟨"a", "", n, "g"⟩] (.text "") {} = [⟨"a", "", n⟩] := by
    rw [found_eq hl]
    rcases hn with rfl | rfl <;> decide +kernel
  refine ⟨{}, 50, by decide, by decide, ?_⟩
  rw [show (Request.ofParsed searchParsed).query.toJson = .text "" from rfl, hf]
  rfl

theorem run_prints_seven :
    let env := singleton .strict "7"
    env.dialect ∈ Json.Dialect.all ∧ parse specs searchArgs = .ok searchParsed ∧
      Reads env searchParsed ⟨"", ["d"]⟩ [⟨"a", "", 7, "g"⟩] ∧
      (run env searchArgs).ending = .exit 0 ∧
      Json.decode .lenient (run env searchArgs).output.toUTF8 =
        .ok (Report.references [⟨"a", "", 7⟩]) := by
  intro env
  have hd : env.dialect ∈ Json.Dialect.all := Json.Dialect.strict_mem_all
  have hr : Reads env searchParsed ⟨"", ["d"]⟩ [⟨"a", "", 7, "g"⟩] :=
    singleton_reads <| by decide +kernel
  have hs := singleton_shows (l := listings env ⟨"", ["d"]⟩) hr.definitions <| .inl rfl
  have hi : InRange env.dialect [⟨"a", "", 7⟩] := by simp [InRange]
  have ⟨_, he, hp⟩ := run_prints_iff hd parse_searchArgs hr
  refine ⟨hd, parse_searchArgs, hr, he.mpr ⟨_, hs, hi⟩, ?_⟩
  exact hp hr.definitions _ hs hi _ Json.Dialect.lenient_mem_all <| inRange_lenient _

theorem run_singleton_iff {d : Json.Dialect} {line : String} (hd : d ∈ Json.Dialect.all)
    (h : Extract.definitions d (singleton d line).files ⟨"", ["d"]⟩ = .ok [⟨"a", "", n, "g"⟩])
    (hn : n = 7 ∨ n = 2 ^ 64) :
    (run (singleton d line) searchArgs).ending = .exit 0 ↔ InRange d [⟨"a", "", n⟩] :=
  run_ending_iff_of_shows hd parse_searchArgs (singleton_reads h) (singleton_shows h hn)

-- Both dialects read a line that the strict one has no integer for, and only the lenient one prints
-- it.
theorem not_forall_run_prints :
    (run (singleton .lenient "18446744073709551616") searchArgs).ending = .exit 0 ∧
    ¬∀ env, env.dialect ∈ Json.Dialect.all → ∀ args p path sites, parse specs args = .ok p →
      Reads env p path sites → (∃ shown, Shows (.ofParsed p) (listings env path) sites shown) →
      (run env args).ending = .exit 0 := by
  constructor
  case left =>
    have hd := Json.Dialect.lenient_mem_all
    exact (run_singleton_iff hd (by decide +kernel) <| .inr rfl).mpr <| inRange_lenient _
  case right =>
    intro ha
    let env := singleton .strict "18446744073709551616"
    have h : Extract.definitions .strict env.files ⟨"", ["d"]⟩ = .ok [⟨"a", "", 2 ^ 64, "g"⟩] := by
      decide +kernel
    have hs := singleton_shows (l := listings env ⟨"", ["d"]⟩) h <| .inr rfl
    have hd := Json.Dialect.strict_mem_all
    have he := ha env hd _ _ _ _ parse_searchArgs (singleton_reads h) ⟨_, hs⟩
    have := (run_singleton_iff hd h <| .inr rfl).mp he rfl _ List.mem_cons_self
    contradiction

end StepCatalog.CommandLine.SearchSteps
