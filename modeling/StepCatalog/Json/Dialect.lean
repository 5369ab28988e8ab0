import StepCatalog.Runtime

/-!
Two dialects of JSON. They differ in what they accept beside the standard, in the integers they
hold, in how deep documents go, and in the characters they write as they are.
-/

namespace StepCatalog.Json

structure Dialect where
  -- Documents in any encoding are read, and a byte order mark may stand in front of them.
  allowsEncodings : Bool
  -- Numbers that are not finite have names, and numbers too large for a float become one.
  allowsNonFinite : Bool
  -- The least and the greatest integer; others are read as floats and cannot be written.
  integers : Option (Int × Int)
  -- How deep the lists and objects of a document that is read may be nested.
  maxDepth : Nat
  -- A document that is nested deeper is a fault of its own, and not a malformed one.
  reportsDepth : Bool
  -- How deep the lists and objects of a document that is written may be nested.
  maxWrittenDepth : Option Nat
  -- What stands in for half of a surrogate pair.
  loneSurrogate : Option Char
  -- Only ASCII characters are written as they are.
  asciiOnly : Bool
  floats : Number.DecimalLayout

namespace Dialect

-- The standard and nothing else, with integers of 64 bits.
def strict : Dialect where
  allowsEncodings := false
  allowsNonFinite := false
  integers := some (-Nat.pow 2 63, Nat.pow 2 64 - 1)
  maxDepth := 1024
  reportsDepth := false
  maxWrittenDepth := some 254
  loneSurrogate := none
  asciiOnly := false
  floats := {
    Number.DecimalLayout.plain with
    leastPositional := -5
    exponentWidth := 1 }

-- Integers of any size, and numbers that are not finite, in any encoding.
def lenient [Runtime] : Dialect where
  allowsEncodings := true
  allowsNonFinite := true
  integers := none
  maxDepth := Runtime.readDepth
  reportsDepth := true
  maxWrittenDepth := none
  loneSurrogate := some '\ufffd'
  asciiOnly := true
  floats := {
    Number.DecimalLayout.plain with
    infinity := "Infinity"
    notANumber := "NaN" }

-- Whether an integer is one of the dialect's.
def holds (d : Dialect) (n : Int) : Bool := d.integers.all fun r => r.1 ≤ n && n ≤ r.2

end Dialect

end StepCatalog.Json
