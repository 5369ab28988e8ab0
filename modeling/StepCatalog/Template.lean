import StepCatalog.Text.Split

/-!
Step templates: literal text with placeholders in braces. A placeholder is a brace, some characters
that do not close it, and the brace that does; braces around nothing, and braces that nothing
closes, are literal.
-/

namespace StepCatalog.Template

-- Where a scan stands: outside placeholders, or after a brace that may open one.
inductive Scan
  | outside
  -- The characters after the brace, the last one first.
  | inside (name : List Char)

-- The literal segments of a text: `segment` is the current one so far, its last character first.
-- There is one segment more than there are placeholders.
def scan (segment : List Char) : Scan → List Char → List (List Char)
  | .outside, [] => [segment.reverse]
  | .inside name, [] => [(name ++ '{' :: segment).reverse]
  | .outside, c :: cs =>
    if c = '{' then scan segment (.inside []) cs else scan (c :: segment) .outside cs
  | .inside name, c :: cs =>
    if c = '}' then
      if name.isEmpty then scan ('}' :: '{' :: segment) .outside cs
      else segment.reverse :: scan [] .outside cs
    else scan segment (.inside (c :: name)) cs

def split (raw : List Char) : List (List Char) := scan [] .outside raw

-- What a placeholder is shown as.
def placeholder : List Char := ['{', 's', 't', 'r', 'i', 'n', 'g', '}']

-- What a placeholder matches: any text on one line.
def wildcard : List Char := ['.', '*']

-- The characters that a pattern reads in a sense of their own.
def specialChars : List Char :=
  [ '(', ')', '[', ']', '{', '}', '?', '*', '+', '-', '|', '^', '$', '\\', '.', '&', '~', '#', ' ',
    '\t', '\n', '\r', '\x0b', '\x0c' ]

def escapeChar (c : Char) : List Char := if c ∈ specialChars then ['\\', c] else [c]

-- A pattern that matches a literal text.
def escape (s : List Char) : List Char := s.flatMap escapeChar

-- Segments with something between them.
def join (between : List Char) : List (List Char) → List Char
  | [] => []
  | [s] => s
  | s :: rest => s ++ between ++ join between rest

-- Shows a literal wildcard like a placeholder.
def showWildcards : List Char → List Char
  | '.' :: '*' :: cs => placeholder ++ showWildcards cs
  | c :: cs => c :: showWildcards cs
  | [] => []

-- The readable form of a template, all of its placeholders alike.
def display (segments : List (List Char)) : List Char :=
  showWildcards (join placeholder segments)

end StepCatalog.Template
