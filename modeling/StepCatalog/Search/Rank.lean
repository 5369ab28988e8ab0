import StepCatalog.Catalog
import StepCatalog.Feature
import StepCatalog.Search.Score

/-!
Searching a catalog: the definitions that pass the filters, the best answers first. Equal scores
are ordered by the displayed text, and equal texts keep the order of the catalog.
-/

namespace StepCatalog.Search

-- Which definitions a search is about; a filter that is absent keeps all of them.
structure Filter where
  groups : Option (List String) := none
  screen : Option String := none
  deriving DecidableEq, Repr

namespace Filter

def accepts (f : Filter) (d : StepDefinition) : Bool :=
  f.groups.all (·.contains d.group) && f.screen.all (· == d.screen)

def keep (f : Filter) (definitions : List StepDefinition) : List StepDefinition :=
  definitions.filter f.accepts

end Filter

-- An answer to a query: the displayed text of a definition, and where it stands.
def hit (d : StepDefinition) : StepReference := ⟨d.display, d.path, d.line⟩

-- The better score goes first and then the lesser text.
def ranksBefore (a b : Int × StepReference) : Bool :=
  b.1 < a.1 || (a.1 == b.1 && a.2.text ≤ b.2.text)

-- The hits that have a score, ranked by it.
def byScore (hits : List StepReference) (query : String) : List StepReference :=
  let scored := hits.filterMap fun h => (score h.text query).map (·, h)
  (scored.mergeSort ranksBefore).map (·.2)

-- Under a blank query no hit is better than another one, and none is scored.
def rank (hits : List StepReference) (query : String) : List StepReference :=
  if Text.isBlankText query then hits.mergeSort fun a b => a.text ≤ b.text
  else byScore hits query

def findSteps (definitions : List StepDefinition) (filter : Filter) (query : String) :
    List StepReference :=
  rank ((filter.keep definitions).map hit) query

end StepCatalog.Search
