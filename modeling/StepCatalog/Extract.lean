import StepCatalog.Feature
import StepCatalog.Json.Document

/-!
Step definitions and feature files from the records that an extractor wrote, one JSON object on
each line. Values of an unexpected type are taken as far as they make sense.
-/

namespace StepCatalog.Extract

/-! ### Values of records -/

variable [Runtime]

def describedText (v : Json) : Except Fault String :=
  if Runtime.describes v then .ok v.asText else .error .textTooDeep

-- A value as text; one that stands for nothing has none.
def textOf (v : Option Json) : Except Fault String :=
  match v with
  | some v => if v.isVoid then .ok "" else describedText v
  | none => .ok ""

-- A value as text, however little it says.
def anyText (v : Option Json) : Except Fault String :=
  match v with
  | some v => describedText v
  | none => .ok ""

def toInteger : Json → Except Fault Int
  | .bool b => .ok (if b then 1 else 0)
  | .int n => .ok n
  | .float .notANumber => .error .undefinedNumber
  | .float x => x.truncate?.elim (.error .infiniteNumber) .ok
  | .text s =>
    match Text.readInteger s.toList with
    | .ok n => .ok n
    | .error .notANumeral => .error (.notANumeral s)
    | .error (.tooManyDigits n) => .error (.numeralTooLong n)
  | v => .error (.notANumber v.typeName)

-- A line number: at least 1, and 1 where the value is of no use.
def lineOf (v : Option Json) : Except Fault Int :=
  match toInteger (v.getD .null) with
  | .ok n => .ok (if 1 ≤ n then n else 1)
  | .error .infiniteNumber => .error .infiniteNumber
  | .error _ => .ok 1

def membersOf : Json → Except Fault Json.Members
  | .object members => .ok members
  | v => .error (.noMember v.typeName "get")

-- The items of a list, the characters of a text, or the keys of an object.
def itemsOf : Option Json → Except Fault (List Json)
  | none => .ok []
  | some (.list items) => .ok items
  | some (.text s) => .ok (s.toList.map fun c => .text c.toString)
  | some (.object members) => .ok (members.map fun m => .text m.1)
  | some v => .error (.notIterable v.typeName)

/-! ### Step definitions -/

-- The step text of a record: its text or, if that is blank, its method name.
def stepTextOf (members : Json.Members) : Except Fault String := do
  let text ← textOf (members.lookup "text")
  if Text.isBlankText text then textOf (members.lookup "method_name") else return text

-- A definition without a group belongs to the file that it stands in.
def groupOf (members : Json.Members) (path : String) : Except Fault String := do
  let group ← textOf (members.lookup "group_label")
  return if group.isEmpty then (Path.ofString path).stem else group

-- The definition that a record describes; one without a step text describes none.
def site? (members : Json.Members) : Except Fault (Option DefinitionSite) := do
  let text ← stepTextOf members
  if Text.isBlankText text then return none
  else
    let path ← textOf (members.lookup "source_path")
    let group ← groupOf members path
    let line ← lineOf (members.lookup "line")
    return some ⟨text, path, line, group⟩

def siteOf (record : Json) : Except Fault (Option DefinitionSite) := do
  site? (← membersOf record)

/-! ### Feature files -/

def scenarioOf (v : Json) : Except Fault Scenario := do
  let members ← membersOf v
  return ⟨← anyText (members.lookup "name"), ← lineOf (members.lookup "line")⟩

-- The rows of an example table; there is no negative number of them.
def rowCountOf (v : Json) : Except Fault Int := do
  let members ← membersOf v
  match members.lookup "row_count" with
  | none => return 0
  | some v => if v.isVoid then return 0 else return max 0 (← toInteger v)

def outlineOf (v : Json) : Except Fault Outline := do
  let members ← membersOf v
  let name ← anyText (members.lookup "name")
  let line ← lineOf (members.lookup "line")
  let examples ← itemsOf (members.lookup "examples")
  return ⟨name, line, ← examples.mapM rowCountOf⟩

def stepOf (v : Json) : Except Fault StepLine := do
  let members ← membersOf v
  return ⟨← anyText (members.lookup "text"), ← lineOf (members.lookup "line")⟩

def feature (members : Json.Members) : Except Fault FeatureFile :=
  match members.lookup "path" with
  | some (.text path) =>
    if path.isEmpty then .error .pathMissing
    else do
      let scenarios ← (← itemsOf (members.lookup "scenarios")).mapM scenarioOf
      let outlines ← (← itemsOf (members.lookup "outlines")).mapM outlineOf
      let steps ← (← itemsOf (members.lookup "steps")).mapM stepOf
      return ⟨path, scenarios, outlines, steps⟩
  | _ => .error .pathMissing

def featureOf (record : Json) : Except Fault FeatureFile := do
  feature (← membersOf record)

/-! ### Files of records -/

def definitions (d : Json.Dialect) (t : FileTree) (p : Path) :
    Except Fault (List DefinitionSite) := do
  let sites ← (← Json.loadLines d t p).mapM site?
  return sites.filterMap id

-- Names the record that a fault comes from, unless a value of it was too large or too deep.
def blame (path : String) (index : Nat) (e : Fault) : Fault :=
  if e.kind = .overflow ∨ e.kind = .tooDeep then e else .badRecord index path e

-- The feature files of records that are counted from `index`.
def featuresFrom (path : String) : Nat → List Json.Members → Except Fault (List FeatureFile)
  | _, [] => .ok []
  | index, members :: rest => do
    let f ← (feature members).mapError (blame path index)
    return f :: (← featuresFrom path (index + 1) rest)

-- Without a path there are no feature files.
def features (d : Json.Dialect) (t : FileTree) : Option Path → Except Fault (List FeatureFile)
  | none => .ok []
  | some p => do featuresFrom p.text 1 (← Json.loadLines d t p)

end StepCatalog.Extract
