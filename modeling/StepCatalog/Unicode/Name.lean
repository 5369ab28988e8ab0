import StepCatalog.Unicode.NameTable
import StepCatalog.Unicode.Ranges

/-!
Characters by their names. The names of ideographs and of Hangul syllables follow from their code
points; all other names stand in a table, and there the case of letters makes no difference.
-/

namespace StepCatalog.Unicode

/-! ### The table -/

-- The words of a name.
abbrev Name := List String

def Name.ofString (s : String) : Name := s.splitOn " "

-- The value of a hexadecimal numeral in capital letters.
def hexNumber (digits : List Char) : Nat :=
  digits.foldl (fun n c => 16 * n +
    if c.isDigit then c.toNat - '0'.toNat else c.toNat - 'A'.toNat + 10) 0

-- Looks a name up among the entries that follow the name `before`, from a code point on.
def findName (name : Name) : Nat → Name → List String → Option Nat
  | _, _, [] => none
  | code, before, entry :: rest =>
    match entry.toList with
    | [] => findName name code before rest
    | '@' :: digits => findName name (hexNumber digits) before rest
    | shared :: words =>
      let this := before.take (shared.toNat - 'a'.toNat) ++ Name.ofString (String.ofList words)
      if this = name then some code else findName name (code + 1) this rest

def nameEntries : List String := (nameTable.splitOn "\n").flatMap (·.splitOn ";")

/-! ### Hangul syllables -/

def leadingSounds : List String :=
  ["G", "GG", "N", "D", "DD", "R", "M", "B", "BB", "S", "SS", "", "J", "JJ", "C", "K", "T", "P", "H"]

def vowels : List String :=
  ["A", "AE", "YA", "YAE", "EO", "E", "YEO", "YE", "O", "WA", "WAE", "OE", "YO", "U", "WEO", "WE",
    "WI", "YU", "EU", "YI", "I"]

def trailingSounds : List String :=
  ["", "G", "GG", "GS", "N", "NJ", "NH", "D", "L", "LG", "LM", "LB", "LS", "LT", "LP", "LH", "M",
    "B", "BS", "S", "SS", "NG", "J", "C", "K", "T", "P", "H"]

-- The longest of some sounds that a text begins with, by its index, and what is left.
def takeSound? (sounds : List String) (text : List Char) : Option (Nat × List Char) :=
  let fitting := sounds.zipIdx.filter fun s => s.1.toList.isPrefixOf text
  let longest := (fitting.map (·.1.length)).max?
  (fitting.find? fun s => some s.1.length == longest).map fun s => (s.2, text.drop s.1.length)

def syllable? (text : List Char) : Option Nat := do
  let (l, text) ← takeSound? leadingSounds text
  let (v, text) ← takeSound? vowels text
  let (t, text) ← takeSound? trailingSounds text
  if text.isEmpty then
    some (0xac00 + (l * vowels.length + v) * trailingSounds.length + t)
  else none

/-! ### Ideographs -/

-- The unified ideographs, which are named for their code points.
def ideographRanges : List (Nat × Nat) :=
  [ (0x3400, 0x4dbf), (0x4e00, 0x9fff), (0x20000, 0x2a6df), (0x2a700, 0x2b738), (0x2b740, 0x2b81d),
    (0x2b820, 0x2cea1), (0x2ceb0, 0x2ebe0), (0x30000, 0x3134a) ]

def ideograph? (digits : List Char) : Option Nat :=
  let code := hexNumber digits
  if (digits.length = 4 ∨ digits.length = 5) ∧
      digits.all (fun c => c.isDigit || ('A' ≤ c && c ≤ 'F')) ∧ inRanges ideographRanges code then
    some code
  else none

/-! ### All names -/

-- What is left of a text behind a beginning.
def dropStart? (start : String) (text : List Char) : Option (List Char) :=
  if start.toList.isPrefixOf text then some (text.drop start.length) else none

-- The code point of the character that has a name.
def ofName? (name : List Char) : Option Nat :=
  match dropStart? "HANGUL SYLLABLE " name, dropStart? "CJK UNIFIED IDEOGRAPH-" name with
  | some sounds, _ => syllable? sounds
  | none, some digits => ideograph? digits
  | none, none => findName (.ofString (String.ofList (name.map Char.toUpper))) 0 [] nameEntries

end StepCatalog.Unicode
