import StepCatalog.Feature
import StepCatalog.Json.Basic

/-!
What is found, as documents: references, counts, and feature files.
-/

namespace StepCatalog

namespace StepReference

def toJson (r : StepReference) : Json :=
  .object [("text", .text r.text), ("source_path", .text r.path), ("line", .int r.line)]

end StepReference

namespace FeatureFile

def scenarioJson (s : Scenario) : Json := .object [("name", .text s.name), ("line", .int s.line)]

def outlineJson (o : Outline) : Json :=
  .object [
    ("name", .text o.name),
    ("line", .int o.line),
    ("examples", .list (o.rowCounts.map fun n => .object [("row_count", .int n)]))]

def stepJson (s : StepLine) : Json := .object [("text", .text s.text), ("line", .int s.line)]

def toJson (f : FeatureFile) : Json :=
  .object [
    ("path", .text f.path),
    ("scenarios", .list (f.scenarios.map scenarioJson)),
    ("outlines", .list (f.outlines.map outlineJson)),
    ("steps", .list (f.steps.map stepJson))]

end FeatureFile

namespace Report

def references (refs : List StepReference) : Json := .list (refs.map StepReference.toJson)

-- Labels and how many definitions go with each.
def counts (counts : List (String × Nat)) : Json := .object (counts.map fun c => (c.1, .int c.2))

end Report

end StepCatalog
