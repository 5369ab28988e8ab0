/-!
Cutting a text at separators and looking for one text inside another.
-/

namespace StepCatalog.Text

-- Puts a character in front of the first piece.
def consHead (c : Char) : List (List Char) → List (List Char)
  | [] => [[c]]
  | p :: ps => (c :: p) :: ps

-- The pieces between the maximal runs of separators. There is one piece more than there are runs,
-- so a run at either end leaves an empty piece there.
def splitRuns (sep : Char → Bool) : List Char → List (List Char)
  | [] => [[]]
  | c :: cs =>
    if sep c then
      if cs.head?.any sep then splitRuns sep cs else [] :: splitRuns sep cs
    else consHead c (splitRuns sep cs)

-- Cuts before every character that `cut` accepts together with the one before it.
def splitBetween (cut : Char → Char → Bool) : List Char → List (List Char)
  | [] => [[]]
  | [c] => [[c]]
  | c :: d :: cs =>
    if cut c d then [c] :: splitBetween cut (d :: cs) else consHead c (splitBetween cut (d :: cs))

-- The first place at which `needle` stands in a text.
def indexOf? (needle : List Char) : List Char → Option Nat
  | [] => if needle.isEmpty then some 0 else none
  | c :: cs => if needle.isPrefixOf (c :: cs) then some 0 else (indexOf? needle cs).map (· + 1)

def occursIn (needle text : List Char) : Bool := (indexOf? needle text).isSome

end StepCatalog.Text
