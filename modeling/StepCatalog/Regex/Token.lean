import StepCatalog.Regex.Fault

/-!
The characters of a pattern, a backslash taken together with the character it escapes.
-/

namespace StepCatalog.Regex

inductive Token
  | plain (c : Char)
  | escaped (c : Char)
  deriving DecidableEq, Repr

namespace Token

def chars : Token → List Char
  | plain c => [c]
  | escaped c => ['\\', c]

def width : Token → Nat
  | plain _ => 1
  | escaped _ => 2

def text (t : Token) : String := String.ofList t.chars

def isPlain (t : Token) (p : Char → Bool) : Bool :=
  match t with
  | plain c => p c
  | escaped _ => false

-- Splits a pattern; a backslash at its very end escapes nothing.
def ofPattern : List Char → Except Refusal (List Token)
  | [] => .ok []
  | ['\\'] => .error (.malformed (.badEscape "(end of pattern)") 1)
  | '\\' :: c :: cs => (ofPattern cs).map (escaped c :: ·)
  | c :: cs => (ofPattern cs).map (plain c :: ·)

-- The number of characters that tokens stand for.
def extent : List Token → Nat
  | [] => 0
  | t :: ts => t.width + extent ts

-- The plain characters at the front that satisfy `p`, no more than `limit` of them.
def takePlain (p : Char → Bool) : Nat → List Token → List Char × List Token
  | limit + 1, plain c :: ts =>
    if p c then
      let (cs, rest) := takePlain p limit ts
      (c :: cs, rest)
    else ([], plain c :: ts)
  | _, ts => ([], ts)

-- All the plain characters at the front that satisfy `p`.
def spanPlain (p : Char → Bool) (ts : List Token) : List Char × List Token :=
  takePlain p ts.length ts

end Token

-- A name and the tokens after its terminator; `what` tells what it names.
def readName (terminator : Char) (what : String) (ts : List Token) :
    Except Refusal (List Char × List Token) :=
  let name := (ts.takeWhile (· ≠ .plain terminator)).flatMap Token.chars
  match ts.dropWhile (· ≠ .plain terminator) with
  | [] =>
    .error (.malformed (if name.isEmpty then .missing what else .unterminatedName terminator)
      name.length)
  | _ :: rest =>
    if name.isEmpty then .error (.malformed (.missing what) (Token.extent rest + 1))
    else .ok (name, rest)

end StepCatalog.Regex
