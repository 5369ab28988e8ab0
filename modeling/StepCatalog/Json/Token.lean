import StepCatalog.Json.Basic
import StepCatalog.Json.Dialect
import StepCatalog.Text.Integer

/-!
The tokens of a JSON document. The reader goes character by character; a word, which is anything
but a text or a punctuation mark, is complete at the first character that cannot belong to it.
-/

namespace StepCatalog.Json

inductive Token
  -- What the document has where no token can be read; nothing is read after it.
  | invalid
  | listStart | listEnd | objectStart | objectEnd | colon | comma
  | text (s : String)
  | scalar (v : Json)

/-! ### Numbers -/

-- A numeral taken apart, by the grammar of JSON.
structure Numeral where
  negative : Bool
  whole : List Char
  fraction : Option (List Char)
  exponent : Option Int

namespace Numeral

def digits (s : List Char) : Nat := s.foldl (fun n c => 10 * n + (c.toNat - '0'.toNat)) 0

-- Whole parts have no needless zero in front.
def isWhole (s : List Char) : Bool := !s.isEmpty && (s.head? != some '0' || s.length == 1)

def splitSign : List Char → Bool × List Char
  | '-' :: s => (true, s)
  | s => (false, s)

def readExponent? : List Char → Option (Option Int)
  | [] => some none
  | e :: s =>
    if e = 'e' ∨ e = 'E' then
      let (negative, s) := match s with
        | '+' :: s => (false, s)
        | s => splitSign s
      if s.isEmpty || !s.all Char.isDigit then none
      else some (some (if negative then -(digits s : Int) else digits s))
    else none

def read? (s : List Char) : Option Numeral :=
  let (negative, s) := splitSign s
  let whole := s.takeWhile Char.isDigit
  if !isWhole whole then none
  else
    match s.dropWhile Char.isDigit with
    | '.' :: s =>
      let fraction := s.takeWhile Char.isDigit
      if fraction.isEmpty then none
      else (readExponent? (s.dropWhile Char.isDigit)).map (⟨negative, whole, some fraction, ·⟩)
    | s => (readExponent? s).map (⟨negative, whole, none, ·⟩)

def toFloat (n : Numeral) : Number.Binary64 :=
  let fraction := n.fraction.getD []
  let all := n.whole ++ fraction
  .ofDecimal n.negative (digits all) all.length (n.exponent.getD 0 - fraction.length)

def toFloat? (d : Dialect) (n : Numeral) : Option Json :=
  match n.toFloat with
  | .infinite negative => if d.allowsNonFinite then some (float (.infinite negative)) else none
  | x => some (float x)

-- A numeral without fraction and exponent is an integer, if the dialect holds it.
def toJson? (d : Dialect) (n : Numeral) : Option Json :=
  match n.fraction, n.exponent with
  | none, none =>
    let magnitude : Int := digits n.whole
    let value := if n.negative then -magnitude else magnitude
    if !d.holds value then n.toFloat? d
    else if n.whole.length ≤ Text.maxDigits then some (int value)
    else none
  | _, _ => n.toFloat? d

end Numeral

-- The value of a word.
def scalar? (d : Dialect) (word : List Char) : Option Json :=
  if word = ['n', 'u', 'l', 'l'] then some null
  else if word = ['t', 'r', 'u', 'e'] then some (bool true)
  else if word = ['f', 'a', 'l', 's', 'e'] then some (bool false)
  else if d.allowsNonFinite && word = ['N', 'a', 'N'] then some (float .notANumber)
  else if d.allowsNonFinite && word = ['I', 'n', 'f', 'i', 'n', 'i', 't', 'y'] then
    some (float (.infinite false))
  else if d.allowsNonFinite && word = ['-', 'I', 'n', 'f', 'i', 'n', 'i', 't', 'y'] then
    some (float (.infinite true))
  else (Numeral.read? word).bind (·.toJson? d)

/-! ### Texts -/

def isHighSurrogate (u : Nat) : Bool := 0xd800 ≤ u && u < 0xdc00

def isLowSurrogate (u : Nat) : Bool := 0xdc00 ≤ u && u < 0xe000

-- The characters that code units stand for; two units of a pair are one character.
def joinUnits (d : Dialect) : List Nat → Option (List Char)
  | [] => some []
  | [u] =>
    if isHighSurrogate u || isLowSurrogate u then d.loneSurrogate.map ([·])
    else some [Char.ofNat u]
  | u :: v :: rest =>
    if isHighSurrogate u then
      if isLowSurrogate v then
        (joinUnits d rest).map
          (Char.ofNat (0x10000 + (u - 0xd800) * 0x400 + (v - 0xdc00)) :: ·)
      else do return (← d.loneSurrogate) :: (← joinUnits d (v :: rest))
    else if isLowSurrogate u then do return (← d.loneSurrogate) :: (← joinUnits d (v :: rest))
    else (joinUnits d (v :: rest)).map (Char.ofNat u :: ·)

-- The character that an escape of one letter stands for.
def shortEscape? : Char → Option Char
  | '"' => some '"'
  | '\\' => some '\\'
  | '/' => some '/'
  | 'b' => some '\x08'
  | 'f' => some '\x0c'
  | 'n' => some '\n'
  | 'r' => some '\r'
  | 't' => some '\t'
  | _ => none

def hexValue? (c : Char) : Option Nat :=
  if c.isDigit then some (c.toNat - '0'.toNat)
  else if 'a' ≤ c && c ≤ 'f' then some (c.toNat - 'a'.toNat + 10)
  else if 'A' ≤ c && c ≤ 'F' then some (c.toNat - 'A'.toNat + 10)
  else none

/-! ### Reading -/

-- What the reader is in the middle of; what it has of that, the last first.
inductive Mode
  | between
  | word (chars : List Char)
  | text (units : List Nat)
  | escape (units : List Nat)
  | hex (units : List Nat) (value missing : Nat)

structure Lexer where
  mode : Mode := .between
  -- The tokens so far, the last first.
  tokens : List Token := []

namespace Lexer

def isSpace (c : Char) : Bool := c == ' ' || c == '\t' || c == '\n' || c == '\r'

def punctuation? : Char → Option Token
  | '[' => some .listStart
  | ']' => some .listEnd
  | '{' => some .objectStart
  | '}' => some .objectEnd
  | ':' => some .colon
  | ',' => some .comma
  | _ => none

def endsWord (c : Char) : Bool := isSpace c || c == '"' || (punctuation? c).isSome

-- A character that belongs to nothing before it.
def start (tokens : List Token) (c : Char) : Lexer :=
  if isSpace c then ⟨.between, tokens⟩
  else if c = '"' then ⟨.text [], tokens⟩
  else
    match punctuation? c with
    | some t => ⟨.between, t :: tokens⟩
    | none => ⟨.word [c], tokens⟩

def step (d : Dialect) (l : Lexer) (c : Char) : Option Lexer :=
  match l.mode with
  | .between => some (start l.tokens c)
  | .word chars =>
    if endsWord c then (scalar? d chars.reverse).map fun v => start (.scalar v :: l.tokens) c
    else some { l with mode := .word (c :: chars) }
  | .text units =>
    if c = '"' then
      (joinUnits d units.reverse).map fun s => ⟨.between, .text (String.ofList s) :: l.tokens⟩
    else if c = '\\' then some { l with mode := .escape units }
    else if c.toNat < 0x20 then none
    else some { l with mode := .text (c.toNat :: units) }
  | .escape units =>
    if c = 'u' then some { l with mode := .hex units 0 4 }
    else (shortEscape? c).map fun e => { l with mode := .text (e.toNat :: units) }
  | .hex units value missing =>
    (hexValue? c).map fun v =>
      let value := 16 * value + v
      if missing ≤ 1 then { l with mode := .text (value :: units) }
      else { l with mode := .hex units value (missing - 1) }

-- The last token of the document, the ones before it after it: a word, but no open text.
def finish (d : Dialect) (l : Lexer) : List Token :=
  match l.mode with
  | .between => l.tokens
  | .word chars => (scalar? d chars.reverse).elim .invalid .scalar :: l.tokens
  | _ => .invalid :: l.tokens

-- The tokens of the document, the last first.
def run (d : Dialect) : Lexer → List Char → List Token
  | l, [] => l.finish d
  | l, c :: cs =>
    match l.step d c with
    | none => .invalid :: l.tokens
    | some l => run d l cs

end Lexer

def tokens (d : Dialect) (s : List Char) : List Token := (Lexer.run d {} s).reverse

end StepCatalog.Json
