import StepCatalog.CommandLine.Transcript
import StepCatalog.Extract
import StepCatalog.Report

/-!
The command that reports the steps without a definition. Paths that the settings or the command
line exclude are left out, and the exit code can tell whether any step is missing.
-/

namespace StepCatalog.CommandLine.MissingSteps

def specs : List OptionSpec :=
  [ ⟨["--definitions"], .text, true⟩,
    ⟨["--scenarios"], .text, true⟩,
    ⟨["--settings"], .text, false⟩,
    ⟨["--exclude"], .text, false⟩,
    ⟨["--fail-on-missing"], .flag, false⟩,
    ⟨["--verbose", "-v"], .flag, false⟩ ]

structure Request where
  definitions : OptionValue
  scenarios : OptionValue
  settings : OptionValue
  exclude : List OptionValue
  failOnMissing : Bool
  verbose : Bool
  deriving DecidableEq, Repr

namespace Request

-- The settings of a project, unless other ones are named.
def defaultSettings : String := "stepscout.json"

def ofParsed (p : Parsed) : Request where
  definitions := (p.last? "--definitions").getD .nothing
  scenarios := (p.last? "--scenarios").getD .nothing
  settings := (p.last? "--settings").getD (.text defaultSettings)
  exclude := p.all "--exclude"
  failOnMissing := p.has "--fail-on-missing"
  verbose := p.has "--verbose"

-- Settings with the fragments that are to be excluded besides.
def extend (r : Request) (settings : Settings) : Except Fault Settings := do
  let fragments ← r.exclude.mapM (·.textOr (.noMember · "strip"))
  return fragments.foldl (fun s f => (s.add f).2) settings

end Request

variable [Runtime]

def listings (env : Environment) (definitions scenarios : Path) : Listings where
  definitions := Extract.definitions env.dialect env.files definitions
  features := Extract.features env.dialect env.files (some scenarios)

-- The exit code that tells of missing steps.
def missingCode : Nat := 2

def answer (env : Environment) (r : Request) (l : Listings) (settings : Settings)
    (sites : List DefinitionSite) : Transcript :=
  let excluded : LogRecord :=
    ⟨.debug, "Excluded path fragments: " ++
      (Json.list (settings.fragments.map .text)).describe, none⟩
  let rebuilt := Session.rebuild { settings := settings } l (some sites)
  let missing := rebuilt.session.findMissing l none
  let files := missing.session.countFiles l
  let scenarios := files.session.countScenarios l
  let definitions := scenarios.session.countDefinitions l
  let log := excluded :: rebuilt.log ++ missing.log ++ files.log ++ scenarios.log ++ definitions.log
  let notice := toString files.value ++ " feature files, " ++ toString scenarios.value ++
    " scenarios, " ++ toString definitions.value ++ " step definitions, " ++
    toString missing.value.length ++ " missing steps"
  .finish env (logged r.verbose log ++ [.line notice])
    (if r.failOnMissing && !missing.value.isEmpty then missingCode else 0)
    (Report.references missing.value)

-- What has to be read before anything is answered.
def inputs (env : Environment) (r : Request) (l : Listings) :
    Except Fault (Settings × List DefinitionSite) := do
  let settings ← Settings.load env.dialect env.files (← r.settings.path)
  let sites ← l.definitions
  let _ ← l.features
  return (settings, sites)

def run (env : Environment) (args : List String) : Transcript :=
  runWith specs args fun p => do
    let r := Request.ofParsed p
    let definitions ← env.require "file" r.definitions
    let scenarios ← env.require "file" r.scenarios
    let l := listings env definitions scenarios
    let (settings, sites) ← (inputs env r l).mapError Transcript.giveUp
    let settings ← (r.extend settings).mapError fun e => (⟨.crash e, "", []⟩ : Transcript)
    return answer env r l settings sites

end StepCatalog.CommandLine.MissingSteps
