import StepCatalog.CommandLine.Transcript
import StepCatalog.Extract
import StepCatalog.Report

/-!
The command that searches step definitions, or counts them by group or by screen.
-/

namespace StepCatalog.CommandLine.SearchSteps

def specs : List OptionSpec :=
  [ ⟨["--definitions"], .text, true⟩,
    ⟨["--query"], .text, false⟩,
    ⟨["--group"], .text, false⟩,
    ⟨["--screen"], .text, false⟩,
    ⟨["--max-results"], .integer, false⟩,
    ⟨["--list-groups"], .flag, false⟩,
    ⟨["--list-screens"], .flag, false⟩,
    ⟨["--verbose", "-v"], .flag, false⟩ ]

structure Request where
  definitions : OptionValue
  query : OptionValue
  groups : List OptionValue
  screen : Option OptionValue
  -- How many results are asked for, unless that is left open.
  maxResults : Option Int
  listGroups : Bool
  listScreens : Bool
  verbose : Bool
  deriving DecidableEq, Repr

namespace Request

def defaultMaxResults : Int := 50

def ofParsed (p : Parsed) : Request where
  definitions := (p.last? "--definitions").getD .nothing
  query := (p.last? "--query").getD (.text "")
  groups := p.all "--group"
  screen := p.last? "--screen"
  maxResults :=
    match p.last? "--max-results" with
    | none => some defaultMaxResults
    | some (.text s) => (Text.readInteger s.toList).toOption
    | some .nothing => none
  listGroups := p.has "--list-groups"
  listScreens := p.has "--list-screens"
  verbose := p.has "--verbose"

-- The definitions that are asked for. A screen without a label is that of no definition.
def filter (r : Request) : Except Fault Search.Filter := do
  let groups ← r.groups.mapM (·.textOr .noSetMember)
  let named : Search.Filter := { groups := if groups.isEmpty then none else some groups }
  return match r.screen with
    | none => named
    | some (.text label) => { named with screen := some label }
    | some .nothing => { groups := some [] }

-- The first results, or all of them where no positive number of results is asked for.
def limit (r : Request) (hits : List StepReference) : Except Fault (List StepReference) :=
  match r.maxResults with
  | some n => .ok (if 0 < n then hits.take n.toNat else hits)
  | none => .error (.notGreater OptionValue.nothing.toJson.typeName (Json.int 0).typeName)

end Request

variable [Runtime]

-- Answers from definitions that have been read; they are read again if their build fails.
def answer (env : Environment) (r : Request) (path : Path) (sites : List DefinitionSite) :
    Transcript :=
  let listings : Listings := { definitions := Extract.definitions env.dialect env.files path }
  let rebuilt := Session.rebuild {} listings (some sites)
  let total := rebuilt.session.countDefinitions listings
  let failed := total.session.failures listings
  let summary : LogRecord :=
    ⟨.debug, "Indexed " ++ toString total.value ++ " step definitions (" ++
      toString failed.value.length ++ " dropped)", none⟩
  let log := rebuilt.log ++ total.log ++ failed.log ++ [summary]
  if r.listGroups then
    let counts := failed.session.groupCounts listings
    .finish env (logged r.verbose (log ++ counts.log)) 0 (Report.counts counts.value)
  else if r.listScreens then
    let counts := failed.session.screenCounts listings
    .finish env (logged r.verbose (log ++ counts.log)) 0 (Report.counts counts.value)
  else
    match r.filter with
    | .error e => ⟨.crash e, "", logged r.verbose log⟩
    | .ok filter =>
      let query := r.query.toJson
      let found := failed.session.search listings query filter
      let notice := "Found " ++ toString found.value.length ++ " of " ++ toString total.value ++
        " step definitions for " ++ query.describe
      let notices := logged r.verbose (log ++ found.log) ++ [.line notice]
      match r.limit found.value with
      | .error e => ⟨.crash e, "", notices⟩
      | .ok results => .finish env notices 0 (Report.references results)

def run (env : Environment) (args : List String) : Transcript :=
  runWith specs args fun p => do
    let r := Request.ofParsed p
    let path ← env.require "definitions file" r.definitions
    let sites ← (Extract.definitions env.dialect env.files path).mapError Transcript.giveUp
    return answer env r path sites

end StepCatalog.CommandLine.SearchSteps
