import StepCatalog.Text.Blank
import StepCatalog.Text.Lower
import StepCatalog.Text.Split

/-!
How well a text answers a query. A text is rejected unless each word of the query stands inside
one of its words; then a direct hit is scored below 300, a hit that only letters and digits count
for below 200, and scattered letters below 100.
-/

namespace StepCatalog.Search

/-! ### Words -/

def isLowerLetter (c : Char) : Bool := 'a' ≤ c && c ≤ 'z'

def isUpperLetter (c : Char) : Bool := 'A' ≤ c && c ≤ 'Z'

-- The characters that words of a text consist of, once it is in lowercase.
def isWordChar (c : Char) : Bool := isLowerLetter c || ('0' ≤ c && c ≤ '9')

-- The word that people glue to the one after it.
def gluedWord : List Char := ['u', 's', 'e', 'r']

-- A single token that begins with the glued word, and goes on, is two.
def unglue : List (List Char) → List (List Char)
  | [t] =>
    if gluedWord.isPrefixOf t && gluedWord.length < t.length then
      [gluedWord, t.drop gluedWord.length]
    else [t]
  | ts => ts

-- The tokens of a query: its pieces between blanks, cut where a capital follows a small letter.
def tokenize (query : List Char) : List (List Char) :=
  let trimmed := Text.lowerChars (Text.stripChars query)
  if trimmed.isEmpty then []
  else
    -- the text is in lowercase by now, so no capital is left to cut at
    let pieces := (Text.splitRuns Text.isBlank trimmed).flatMap
      (Text.splitBetween fun c d => isLowerLetter c && isUpperLetter d)
    unglue (pieces.filter fun p => !p.all Text.isBlank)

-- The words of a text, with an empty one at an end that has none.
def words (text : List Char) : List (List Char) :=
  Text.splitRuns (fun c => !isWordChar c) (Text.lowerChars text)

-- Every token stands inside some word of the text.
def hasTokens (text : List Char) (tokens : List (List Char)) : Bool :=
  let ws := words text
  tokens.all fun t => ws.any (Text.occursIn t)

/-! ### Scattered letters -/

def clean (s : List Char) : List Char := s.filter isWordChar

-- Matches `query` letter by letter; `length` is that of the window from its first letter on.
def windowFrom (length : Nat) : List Char → List Char → Option Nat
  | [], _ => some length
  | _ :: _, [] => none
  | q :: query, c :: text =>
    windowFrom (length + 1) (if c = q then query else q :: query) text

-- The length of the first window, from the first letter of `query` on, that holds it in order.
def window? (query : List Char) : List Char → Option Nat
  | [] => none
  | c :: text =>
    match query with
    | [] => none
    | q :: query => if c = q then windowFrom 1 query text else window? (q :: query) text

-- How many characters the window has beyond those of the query.
def subsequenceGap (text query : List Char) : Option Nat :=
  (window? query text).map (· - query.length)

/-! ### Scores -/

def exactBase : Int := 300

def cleanBase : Int := 200

def subsequenceBase : Int := 100

-- The score of a query that is not blank and whose tokens the text has.
def scoreTokens (text query : List Char) : Option Int :=
  let lowerText := Text.lowerChars text
  let lowerQuery := Text.lowerChars query
  match Text.indexOf? lowerQuery lowerText with
  | some i => some (exactBase - i)
  | none =>
    match Text.indexOf? (clean lowerQuery) (clean lowerText) with
    | some i => some (cleanBase - i)
    | none =>
      match subsequenceGap (clean lowerText) (clean lowerQuery) with
      | some gap => if gap ≤ (clean lowerQuery).length then some (subsequenceBase - gap) else none
      | none => none

-- The higher the better; a text without a score is rejected, and a blank query rejects none.
def score (text query : String) : Option Int :=
  if Text.isBlankText query then some 0
  else if hasTokens text.toList (tokenize query.toList) then scoreTokens text.toList query.toList
  else none

end StepCatalog.Search
