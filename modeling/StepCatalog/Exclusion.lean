import StepCatalog.Feature
import StepCatalog.Text.Blank
import StepCatalog.Text.Split

/-!
Excluded paths. A path is excluded when it contains a fragment, both spelled with slashes; blank
fragments exclude nothing. Files, references and counts all go by this one test.
-/

namespace StepCatalog

namespace Exclusion

def slashed (path : List Char) : List Char := path.map fun c => if c = '\\' then '/' else c

def excludes (fragments : List String) (path : String) : Bool :=
  (fragments.filter fun f => !Text.isBlankText f).any fun f =>
    Text.occursIn (slashed f.toList) (slashed path.toList)

def keptFiles (fragments : List String) (files : List FeatureFile) : List FeatureFile :=
  files.filter fun f => !excludes fragments f.path

def keptReferences (fragments : List String) (refs : List StepReference) : List StepReference :=
  refs.filter fun r => !excludes fragments r.path

def fileCount (fragments : List String) (files : List FeatureFile) : Nat :=
  (keptFiles fragments files).length

def scenarioCount (fragments : List String) (files : List FeatureFile) : Int :=
  total ((keptFiles fragments files).map FeatureFile.scenarioCount)

end Exclusion

end StepCatalog
