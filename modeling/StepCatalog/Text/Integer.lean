import StepCatalog.Text.Blank
import StepCatalog.Unicode.Number

/-!
Integers written by people: digits of any script, a sign, single underscores between digits, and
blanks around. Numerals of more than 4300 digits are refused.
-/

namespace StepCatalog.Text

-- Longer numerals are not converted.
def maxDigits : Nat := 4300

inductive IntegerFault
  | notANumeral
  | tooManyDigits (count : Nat)
  deriving DecidableEq, Repr

-- The digits of a numeral whose underscores each stand between two digits.
def numeralDigits? : List Char → Option (List Nat)
  | [] => none
  | [c] => (Unicode.decimalValue? c.toNat).map ([·])
  | c :: '_' :: cs => do return (← Unicode.decimalValue? c.toNat) :: (← numeralDigits? cs)
  | c :: cs => do return (← Unicode.decimalValue? c.toNat) :: (← numeralDigits? cs)

def ofDigits (digits : List Nat) : Nat := digits.foldl (fun n d => 10 * n + d) 0

-- Blanks that may surround a numeral: the separators U+001C to U+001F are not among them.
def isNumeralBlank (c : Char) : Bool := isBlank c && !(0x1c ≤ c.toNat && c.toNat ≤ 0x1f)

def isNumeralChar (c : Char) : Bool := c == '_' || Unicode.isDecimal c.toNat

-- The digits at the front are counted before anything after them is looked at.
def readNatural (s : List Char) : Except IntegerFault Nat :=
  match numeralDigits? (s.takeWhile isNumeralChar) with
  | none => .error .notANumeral
  | some ds =>
    if maxDigits < ds.length then .error (.tooManyDigits ds.length)
    else if (s.dropWhile isNumeralChar).isEmpty then .ok (ofDigits ds)
    else .error .notANumeral

def readInteger (s : List Char) : Except IntegerFault Int :=
  match ((s.dropWhile isNumeralBlank).reverse.dropWhile isNumeralBlank).reverse with
  | '-' :: ds => (readNatural ds).map fun n => -(n : Int)
  | '+' :: ds => (readNatural ds).map Int.ofNat
  | ds => (readNatural ds).map Int.ofNat

end StepCatalog.Text
