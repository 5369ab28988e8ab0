import StepCatalog.Number.Binary64

/-!
The shortest decimal text of a floating-point number: the fewest digits that read back as the
same number and, among those, the nearest. How the digits are laid out is a `DecimalLayout`.
-/

namespace StepCatalog.Number

-- `digits · 10 ^ exponent`.
structure Decimal where
  digits : Nat
  exponent : Int
  deriving DecidableEq, Repr

-- The real numbers that round to one floating-point number, around `4 · mantissa` in units of
-- `2 ^ unit`. The ends belong to it when the mantissa is even.
structure RoundingInterval where
  low : Nat
  middle : Nat
  high : Nat
  unit : Int
  closed : Bool

namespace RoundingInterval

-- Below a power of two the numbers lie twice as close.
def around (mantissa : Nat) (exponent : Int) : RoundingInterval where
  low := 4 * mantissa -
    if mantissa = Nat.pow 2 52 ∧ exponent > Binary64.minExponent then 1 else 2
  middle := 4 * mantissa
  high := 4 * mantissa + 2
  unit := exponent - 2
  closed := mantissa % 2 = 0

-- What a multiple of `10 ^ k` and a multiple of the unit are multiplied by to be compared.
def scales (i : RoundingInterval) (k : Int) : Nat × Nat :=
  (Nat.pow 10 k.toNat * Nat.pow 2 (-i.unit).toNat,
    Nat.pow 2 i.unit.toNat * Nat.pow 10 (-k).toNat)

def contains (i : RoundingInterval) (d : Decimal) : Bool :=
  let (a, b) := i.scales d.exponent
  if i.closed then i.low * b ≤ d.digits * a && d.digits * a ≤ i.high * b
  else i.low * b < d.digits * a && d.digits * a < i.high * b

-- The multiple of `10 ^ k` in the interval that is nearest to the middle, an even one on a tie.
def nearest? (i : RoundingInterval) (k : Int) : Option Decimal :=
  let (a, b) := i.scales k
  let below := i.middle * b / a
  let remainder := i.middle * b % a
  let low : Decimal := ⟨below, k⟩
  let high : Decimal := ⟨below + 1, k⟩
  let lowFirst : Bool := 2 * remainder < a || (2 * remainder == a && below % 2 == 0)
  let candidates := if lowFirst then [low, high] else [high, low]
  candidates.find? fun d => 0 < d.digits && i.contains d

-- Tries the grids `10 ^ k`, `10 ^ (k - 1)`, … and stops at the first one with a hit.
def coarsest (i : RoundingInterval) : Nat → Int → Decimal
  | 0, k => ⟨i.middle, k⟩
  | steps + 1, k => (i.nearest? k).getD (i.coarsest steps (k - 1))

end RoundingInterval

-- The shortest decimal that reads back as `mantissa · 2 ^ exponent`; 17 digits always do.
def shortestDecimal (mantissa : Nat) (exponent : Int) : Decimal :=
  let top := ((bitLength mantissa : Int) + exponent) * 30103 / 100000 + 1
  (RoundingInterval.around mantissa exponent).coarsest 24 top

-- How a decimal is written.
structure DecimalLayout where
  -- The least exponent of the leading digit that is written without an exponent.
  leastPositional : Int
  -- The least exponent beyond those that are written without an exponent.
  endPositional : Int
  exponentPlus : Bool
  exponentWidth : Nat
  infinity : String
  notANumber : String

namespace DecimalLayout

def pad (width : Nat) (s : String) : String :=
  String.ofList (List.replicate (width - s.length) '0') ++ s

def writeExponent (f : DecimalLayout) (e : Int) : String :=
  "e" ++ (if e < 0 then "-" else if f.exponentPlus then "+" else "") ++
    pad f.exponentWidth (toString e.natAbs)

-- The digits with a point after the first `whole` of them, and at least one digit after it.
def writePositional (digits : List Char) (whole : Int) : String :=
  if whole ≤ 0 then
    "0." ++ String.ofList (List.replicate (-whole).toNat '0' ++ digits)
  else
    let n := whole.toNat
    let fraction := digits.drop n
    String.ofList (digits.take n ++ List.replicate (n - digits.length) '0') ++ "." ++
      (if fraction.isEmpty then "0" else String.ofList fraction)

def writeScientific (f : DecimalLayout) (digits : List Char) (e : Int) : String :=
  String.ofList (digits.take 1) ++
    (if digits.length ≤ 1 then "" else "." ++ String.ofList (digits.drop 1)) ++ f.writeExponent e

def writeDecimal (f : DecimalLayout) (d : Decimal) : String :=
  let digits := Nat.toDigits 10 d.digits
  let lead := d.exponent + digits.length - 1
  if f.leastPositional ≤ lead ∧ lead < f.endPositional then writePositional digits (lead + 1)
  else f.writeScientific digits lead

def write (f : DecimalLayout) : Binary64 → String
  | .notANumber => f.notANumber
  | .infinite negative => (if negative then "-" else "") ++ f.infinity
  | .finite negative m e =>
    (if negative then "-" else "") ++ if m = 0 then "0.0" else f.writeDecimal (shortestDecimal m e)

end DecimalLayout

-- The layout of numbers inside messages: at least two exponent digits, always with a sign.
def DecimalLayout.plain : DecimalLayout where
  leastPositional := -4
  endPositional := 16
  exponentPlus := true
  exponentWidth := 2
  infinity := "inf"
  notANumber := "nan"

end StepCatalog.Number
