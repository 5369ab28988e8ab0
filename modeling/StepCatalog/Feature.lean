/-!
Feature files: the scenarios, outlines and steps that an extractor has found in them.
-/

namespace StepCatalog

-- A step text and where it stands.
structure StepReference where
  text : String
  path : String
  line : Int
  deriving DecidableEq, Repr

structure Scenario where
  name : String
  line : Int
  deriving DecidableEq, Repr

-- A scenario that runs once for each row of its example tables.
structure Outline where
  name : String
  line : Int
  -- The rows of each table, its header not counted.
  rowCounts : List Int
  deriving DecidableEq, Repr

-- The sum of some numbers.
def total (ns : List Int) : Int := ns.foldr (· + ·) 0

-- How many scenarios an outline amounts to: at least one, rows or not.
def Outline.scenarioCount (o : Outline) : Int :=
  if 0 < total o.rowCounts then total o.rowCounts else 1

structure StepLine where
  text : String
  line : Int
  deriving DecidableEq, Repr

structure FeatureFile where
  path : String
  scenarios : List Scenario
  outlines : List Outline
  steps : List StepLine
  deriving DecidableEq, Repr

namespace FeatureFile

def references (f : FeatureFile) : List StepReference :=
  f.steps.map fun s => ⟨s.text, f.path, s.line⟩

def scenarioCount (f : FeatureFile) : Int :=
  f.scenarios.length + total (f.outlines.map Outline.scenarioCount)

end FeatureFile

def collectReferences (files : List FeatureFile) : List StepReference :=
  files.flatMap FeatureFile.references

end StepCatalog
