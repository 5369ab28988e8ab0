import StepCatalog.Unicode.Case

/-!
Lowercasing a whole text. It goes code point by code point but for two letters: a dotted capital I
becomes two code points, and a capital sigma takes its final form at the end of a word.
-/

namespace StepCatalog.Text

-- The nearest character that decides about a sigma is a letter of the same word.
def adjoinsCased (neighbours : List Char) : Bool :=
  (neighbours.dropWhile fun c => Unicode.isCaseIgnorable c.toNat).head?.any
    fun c => Unicode.isCased c.toNat

-- A sigma is final when letters stand before it, nearest first, and none after it.
def isFinalSigma (before after : List Char) : Bool := adjoinsCased before && !adjoinsCased after

def lowerChar (before : List Char) (c : Char) (after : List Char) : List Char :=
  if c = '\u03a3' then [if isFinalSigma before after then '\u03c2' else '\u03c3']
  else if c = '\u0130' then ['i', '\u0307']
  else [Char.ofNat (Unicode.lower c.toNat)]

-- Lowercases what follows the characters `before`, nearest first.
def lowerAfter (before : List Char) : List Char → List Char
  | [] => []
  | c :: cs => lowerChar before c cs ++ lowerAfter (c :: before) cs

def lowerChars (s : List Char) : List Char := lowerAfter [] s

end StepCatalog.Text
