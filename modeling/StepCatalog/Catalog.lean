import StepCatalog.Pattern

/-!
The catalog of step definitions. Building it compiles a whole corpus: a text that is malformed is
set aside among the failures, and any other error ends the build.
-/

namespace StepCatalog

-- A place in a code base that defines a step.
structure DefinitionSite where
  text : String
  path : String
  line : Int
  -- The class or file that the definition belongs to.
  group : String
  deriving DecidableEq, Repr

structure StepDefinition where
  pattern : StepPattern
  path : String
  line : Int
  group : String
  -- The label of the screen that the step is about, or nothing.
  screen : String
  deriving DecidableEq

namespace StepDefinition

def display (d : StepDefinition) : String := d.pattern.display

def ofSite [Runtime] (site : DefinitionSite) : Except PatternError StepDefinition :=
  (StepPattern.compile site.text).map fun pattern => {
    pattern := pattern
    path := site.path
    line := site.line
    group := site.group
    screen := String.ofList (StepText.screenTag site.text.toList) }

end StepDefinition

-- A definition that was set aside.
structure Failure where
  raw : String
  detail : String
  deriving DecidableEq, Repr

def Failure.error (f : Failure) : PatternError := .malformed f.raw f.detail

-- What a corpus amounts to once it is compiled.
structure Catalog where
  definitions : List StepDefinition
  failures : List Failure
  deriving DecidableEq

namespace Catalog

def empty : Catalog := ⟨[], []⟩

-- Definitions and failures keep the order of the corpus; any other error ends the build.
def build [Runtime] : List DefinitionSite → Except PatternError Catalog
  | [] => .ok empty
  | site :: sites =>
    match StepDefinition.ofSite site with
    | .error (.malformed raw detail) =>
      (build sites).map fun c => { c with failures := ⟨raw, detail⟩ :: c.failures }
    | .error e => .error e
    | .ok d => (build sites).map fun c => { c with definitions := d :: c.definitions }

def patterns (c : Catalog) : List StepPattern := c.definitions.map (·.pattern)

end Catalog

-- How often each label occurs, in the order of the labels.
def tally (labels : List String) : List (String × Nat) :=
  (labels.eraseDups.mergeSort fun a b => a ≤ b).map fun l => (l, labels.count l)

namespace Catalog

def groupCounts (c : Catalog) : List (String × Nat) := tally (c.definitions.map (·.group))

-- Definitions about no screen are left out.
def screenCounts (c : Catalog) : List (String × Nat) :=
  tally ((c.definitions.map (·.screen)).filter fun s => !Text.isBlankText s)

end Catalog

end StepCatalog
