import StepCatalog.Regex.Matcher
import StepCatalog.Template

/-!
Step patterns: the text of a step definition, compiled so that it matches step texts as a whole
and without regard to case. The text is either a regular expression or a template.
-/

namespace StepCatalog

namespace StepText

-- Text that is written as a regular expression, by the look of it.
def isExpression (raw : List Char) : Bool :=
  raw.head? = some '^' || raw.getLast? = some '$' || raw.contains '\\' ||
    (raw.contains '(' && raw.contains ')')

-- A pattern with an anchor at either end, where it has none.
def anchored (source : List Char) : List Char :=
  let opened := if source.head? = some '^' then source else '^' :: source
  if opened.getLast? = some '$' then opened else opened ++ ['$']

-- The regular expression for a step text.
def source (raw : List Char) : List Char :=
  if isExpression raw then anchored raw
  else anchored (Template.join Template.wildcard ((Template.split raw).map Template.escape))

-- The label in front of a colon, where no space comes before the colon; else nothing.
def screenTag (raw : List Char) : List Char :=
  let label := raw.takeWhile (· ≠ ':')
  if label.length = raw.length ∨ label.isEmpty ∨ label.contains ' ' then []
  else Text.stripChars label

end StepText

-- The flags under which step texts are matched.
def stepFlags : Regex.Flags := { ignoreCase := true }

structure StepPattern where
  raw : String
  source : String
  program : Regex.Program
  -- The literal segments of a template; a regular expression has none.
  segments : List String
  deriving DecidableEq

-- Why a step text has no pattern.
inductive PatternError
  -- The regular expression is malformed; the detail says how and where.
  | malformed (raw detail : String)
  | countTooLarge
  | countTooLong (digits : Nat)
  | nestedTooDeep
  | reachesTooFar
  deriving DecidableEq, Repr

namespace PatternError

def ofRefusal (raw source : List Char) : Regex.Refusal → PatternError
  | .malformed fault fromEnd =>
    malformed (String.ofList raw)
      (fault.message ++ " " ++ Regex.describePlace source (source.length - fromEnd))
  | .unmatchable fault => malformed (String.ofList raw) fault.message
  | .countTooLarge => countTooLarge
  | .countTooLong digits => countTooLong digits
  | .reachesTooFar => reachesTooFar

def message : PatternError → String
  | malformed raw detail => "Cannot compile step pattern " ++ Text.quote raw ++ ": " ++ detail
  | countTooLarge => "the repetition number is too large"
  | countTooLong digits =>
    "Exceeds the limit (4300 digits) for integer string conversion: value has " ++
      toString digits ++ " digits; use sys.set_int_max_str_digits() to increase the limit"
  | nestedTooDeep => "maximum recursion depth exceeded"
  | reachesTooFar => "invalid SRE code"

end PatternError

namespace StepPattern

def compile [Runtime] (raw : String) : Except PatternError StepPattern :=
  let text := raw.toList
  let source := StepText.source text
  if !Runtime.compiles source then .error .nestedTooDeep
  else
    match Regex.Program.ofPattern source stepFlags with
    | .error e => .error (.ofRefusal text source e)
    | .ok program => .ok {
        raw := raw
        source := String.ofList source
        program := program
        segments :=
          if StepText.isExpression text then [] else (Template.split text).map String.ofList }

def isTemplated (p : StepPattern) : Bool := !p.segments.isEmpty

-- Whether the whole of a text matches.
def accepts [Runtime] (p : StepPattern) (text : String) : Except Regex.MatchFault Bool :=
  p.program.fullMatch text.toList

-- A pattern without the anchors at its ends.
def unanchored (source : List Char) : List Char :=
  let opened := if source.head? = some '^' then source.tail else source
  if opened.getLast? = some '$' then opened.dropLast else opened

-- The pattern as it is shown to people.
def display (p : StepPattern) : String :=
  String.ofList (if p.isTemplated then Template.display (p.segments.map String.toList)
    else unanchored p.source.toList)

end StepPattern

end StepCatalog
