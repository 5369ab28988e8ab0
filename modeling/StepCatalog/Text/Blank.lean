import StepCatalog.Unicode.Ranges

/-!
Blank characters and trimming. A text is blank when it has no other characters; trimming takes
the blank characters off both ends.
-/

namespace StepCatalog.Text

-- The characters that separate words in any script.
def blankRanges : List (Nat × Nat) :=
  [ (0x09, 0x0d), (0x1c, 0x20), (0x85, 0x85), (0xa0, 0xa0), (0x1680, 0x1680), (0x2000, 0x200a),
    (0x2028, 0x2029), (0x202f, 0x202f), (0x205f, 0x205f), (0x3000, 0x3000) ]

def isBlank (c : Char) : Bool := Unicode.inRanges blankRanges c.toNat

def stripStart (s : List Char) : List Char := s.dropWhile isBlank

def stripEnd (s : List Char) : List Char := (s.reverse.dropWhile isBlank).reverse

def stripChars (s : List Char) : List Char := stripEnd (stripStart s)

def strip (s : String) : String := String.ofList (stripChars s.toList)

-- A text of blank characters only; the empty text is one.
def isBlankText (s : String) : Bool := s.toList.all isBlank

end StepCatalog.Text
