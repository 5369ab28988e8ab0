import Mathlib
import StepCatalog.CommandLine.MissingSteps
import StepCatalog.Proofs.CommandLine.Ending
import StepCatalog.Proofs.Reconcile
import StepCatalog.Proofs.Session.Machine

namespace StepCatalog.CommandLine.MissingSteps

/-! ### Inputs -/

structure Inputs where
  settings : Settings
  sites : List DefinitionSite
  files : List FeatureFile

def Inputs.listings (i : Inputs) : Listings :=
  ⟨.ok i.sites, .ok i.files⟩

namespace Inputs

-- The steps that count.
def references (i : Inputs) : List StepReference :=
  collectReferences <| Exclusion.keptFiles i.settings.fragments i.files

end Inputs

section

variable [Runtime]

-- All that has to be read can be read, and this is what it says.
structure Reads (env : Environment) (p : Parsed) (i : Inputs) : Prop where
  help : p.help = false
  definitions : ∃ path, env.require "file" (Request.ofParsed p).definitions = .ok path ∧
    Extract.definitions env.dialect env.files path = .ok i.sites
  features : ∃ path, env.require "file" (Request.ofParsed p).scenarios = .ok path ∧
    Extract.features env.dialect env.files (some path) = .ok i.files
  settings : ∃ path base, (Request.ofParsed p).settings.path = .ok path ∧
    Settings.load env.dialect env.files path = .ok base ∧
    (Request.ofParsed p).extend base = .ok i.settings

-- The steps that a run reports.
def Inputs.missing (i : Inputs) : List StepReference :=
  let rebuilt := Session.rebuild { settings := i.settings } i.listings (some i.sites)
  (rebuilt.session.findMissing i.listings none).value

namespace Inputs

-- The pattern of some definition fully matches the trimmed text.
def Defines (i : Inputs) (text : String) : Prop :=
  ∃ site ∈ i.sites, ∃ p, StepPattern.compile site.text = .ok p ∧
    p.accepts (Text.strip text) = .ok true

variable {i : Inputs}

end Inputs

end

/-! ### A small project -/

end StepCatalog.CommandLine.MissingSteps
