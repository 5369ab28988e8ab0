import StepCatalog.Regex.Node

/-!
Alternatives in their simplest form. What all of them begin with is matched before they part, and
alternatives of one character each are one character set.
-/

namespace StepCatalog.Regex.Node

-- A node that has no nodes inside it. Of two other nodes it is not asked whether they are alike.
def isFlat : Node → Bool
  | char _ | anchor _ | backref _ => true
  | _ => false

-- The nodes that all alternatives begin with, and what is left of each alternative.
def splitCommon : List Node → List (List Node) → List Node × List (List Node)
  | n :: first, rest =>
    if n.isFlat && rest.all (·.head? == some n) then
      let (common, alternatives) := splitCommon first (rest.map List.tail)
      (n :: common, alternatives)
    else ([], (n :: first) :: rest)
  | [], rest => ([], [] :: rest)

-- The members of a character set that does the work of an alternative.
def members? : List Node → Option (List SetItem)
  | [char (.literal c)] => some [.code c]
  | [char (.set false items)] => some items
  | _ => none

-- The first of the alternatives that fits.
def anyOf : List (List Node) → Node
  | [] => empty
  | [only] => sequence only
  | first :: rest => alt (sequence first) (anyOf rest)

-- What alternatives amount to, as parts of a sequence.
def ofAlternatives : List (List Node) → List Node
  | [] => []
  | [only] => only
  | first :: rest =>
    let (common, alternatives) := splitCommon first rest
    common ++ [match alternatives.mapM members? with
      | some sets => char (.set false sets.flatten.eraseDups)
      | none => anyOf alternatives]

end StepCatalog.Regex.Node
