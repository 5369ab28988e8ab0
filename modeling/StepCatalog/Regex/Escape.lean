import StepCatalog.Regex.Node
import StepCatalog.Regex.Token
import StepCatalog.Unicode.Name

/-!
What a backslash and the character after it stand for, inside a character set and outside one.
-/

namespace StepCatalog.Regex

def isOctalDigit (c : Char) : Bool := '0' ≤ c && c ≤ '7'

def isHexDigit (c : Char) : Bool :=
  c.isDigit || ('a' ≤ c && c ≤ 'f') || ('A' ≤ c && c ≤ 'F')

def digitValue (c : Char) : Nat :=
  if c.isDigit then c.toNat - '0'.toNat
  else if c.isLower then c.toNat - 'a'.toNat + 10
  else c.toNat - 'A'.toNat + 10

def numberInBase (base : Nat) (digits : List Char) : Nat :=
  digits.foldl (fun n c => base * n + digitValue c) 0

namespace Escape

-- Escapes for control characters, and the backslash itself.
def controlCode? : Char → Option Nat
  | 'a' => some 7
  | 'b' => some 8
  | 't' => some 9
  | 'n' => some 10
  | 'v' => some 11
  | 'f' => some 12
  | 'r' => some 13
  | '\\' => some 92
  | _ => none

def category? : Char → Option SetItem
  | 'd' => some (.category .digit false)
  | 'D' => some (.category .digit true)
  | 's' => some (.category .space false)
  | 'S' => some (.category .space true)
  | 'w' => some (.category .word false)
  | 'W' => some (.category .word true)
  | _ => none

def anchor? : Char → Option Anchor
  | 'A' => some .textStart
  | 'b' => some .boundary
  | 'B' => some .notBoundary
  | 'Z' => some .textEnd
  | _ => none

-- The number of hexadecimal digits that an escape letter asks for.
def hexWidth? : Char → Option Nat
  | 'x' => some 2
  | 'u' => some 4
  | 'U' => some 8
  | _ => none

-- A fault in an escape whose text has been read, at the escape's backslash.
def refuse (fault : String → Fault) (text : List Char) (rest : List Token) : Refusal :=
  .malformed (fault (String.ofList text)) (Token.extent rest + text.length)

-- Exactly `width` hexadecimal digits, for a code point.
def readHex (c : Char) (width : Nat) (ts : List Token) : Except Refusal (Nat × List Token) :=
  let (digits, rest) := Token.takePlain isHexDigit width ts
  let text := '\\' :: c :: digits
  let code := numberInBase 16 digits
  if digits.length ≠ width then .error (refuse .incompleteEscape text rest)
  else if code > 0x10ffff then .error (refuse .badEscape text rest)
  else .ok (code, rest)

-- A character by its name.
def readNamed (ts : List Token) : Except Refusal (Nat × List Token) :=
  match ts with
  | .plain '{' :: ts => do
    let (name, rest) ← readName '}' "character name" ts
    match Unicode.ofName? name with
    | some code => return (code, rest)
    | none =>
      throw (.malformed (.unknownCharacterName (String.ofList name))
        (Token.extent rest + name.length + 4))
  | _ => .error (.malformed (.missing "\x7b") (Token.extent ts))

-- An octal number that starts with the digit `c` and has up to two digits more.
def readOctal (c : Char) (ts : List Token) : Except Refusal (Nat × List Token) :=
  let (digits, rest) := Token.takePlain isOctalDigit 2 ts
  let code := numberInBase 8 (c :: digits)
  if code > 0o377 then .error (refuse .octalTooLarge ('\\' :: c :: digits) rest)
  else .ok (code, rest)

-- Any other escape stands for its character, unless that is a letter or a digit.
def readLiteral (c : Char) (ts : List Token) : Except Refusal (Nat × List Token) :=
  if c.isAlpha || c.isDigit then .error (refuse .badEscape ['\\', c] ts)
  else .ok (c.toNat, ts)

-- An escape by code point or by name; `other` reads those that are neither.
def readCode (c : Char) (ts : List Token)
    (other : Char → List Token → Except Refusal (Nat × List Token)) :
    Except Refusal (Nat × List Token) :=
  match hexWidth? c with
  | some width => readHex c width ts
  | none => if c = 'N' then readNamed ts else other c ts

-- An escape inside a set.
def readInSet (c : Char) (ts : List Token) : Except Refusal (SetItem × List Token) :=
  match controlCode? c, category? c with
  | some n, _ => .ok (.code n, ts)
  | none, some item => .ok (item, ts)
  | none, none => do
    let (n, rest) ← readCode c ts fun c ts =>
      if isOctalDigit c then readOctal c ts else readLiteral c ts
    return (.code n, rest)

-- The digits of a group's number, or of an octal number: the escape `c` and one digit more.
inductive DigitEscape
  | octal (code : Nat)
  | reference (digits : List Char)

-- Digits after the first that is not zero: three octal digits make a character.
def readDigits (c : Char) (ts : List Token) : Except Refusal (DigitEscape × List Token) :=
  match ts with
  | .plain d :: ts =>
    if d.isDigit then
      match ts with
      | .plain e :: rest =>
        if isOctalDigit c && isOctalDigit d && isOctalDigit e then
          let code := numberInBase 8 [c, d, e]
          if code > 0o377 then .error (refuse .octalTooLarge ['\\', c, d, e] rest)
          else .ok (.octal code, rest)
        else .ok (.reference [c, d], ts)
      | _ => .ok (.reference [c, d], ts)
    else .ok (.reference [c], .plain d :: ts)
  | _ => .ok (.reference [c], ts)

end Escape

end StepCatalog.Regex
