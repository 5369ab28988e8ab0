import StepCatalog.Feature
import StepCatalog.Pattern

/-!
Steps without a definition: the references whose trimmed text no pattern accepts. A pattern that has
no answer for a text ends the search.
-/

namespace StepCatalog

variable [Runtime]

-- Whether one of the patterns accepts a text; those after the first one that does are not asked.
def anyAccepts (text : String) : List StepPattern → Except Regex.MatchFault Bool
  | [] => .ok false
  | p :: rest => do if ← p.accepts text then return true else anyAccepts text rest

def hasDefinition (patterns : List StepPattern) (text : String) : Except Regex.MatchFault Bool :=
  anyAccepts (Text.strip text) patterns

-- The references that no pattern accepts, in their order and with their text trimmed.
def missingSteps (patterns : List StepPattern) :
    List StepReference → Except Regex.MatchFault (List StepReference)
  | [] => .ok []
  | r :: rest => do
    let found ← hasDefinition patterns r.text
    let others ← missingSteps patterns rest
    return if found then others else { r with text := Text.strip r.text } :: others

end StepCatalog
