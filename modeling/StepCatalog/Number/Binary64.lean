/-!
Binary floating-point numbers of double precision, as exact values. A finite number is a sign and
`mantissa · 2 ^ exponent`; rounding takes a fraction to the nearest of them, ties to the even
mantissa, and yields infinity beyond the largest.
-/

namespace StepCatalog.Number

inductive Binary64
  | finite (negative : Bool) (mantissa : Nat) (exponent : Int)
  | infinite (negative : Bool)
  | notANumber
  deriving DecidableEq, Repr

namespace Binary64

def minExponent : Int := -1074

def maxExponent : Int := 971

def zero (negative : Bool) : Binary64 := .finite negative 0 minExponent

def isZero : Binary64 → Bool
  | .finite _ 0 _ => true
  | _ => false

def isFinite : Binary64 → Bool
  | .finite .. => true
  | _ => false

end Binary64

-- The number of binary digits.
def bitLength (n : Nat) : Nat := if n = 0 then 0 else Nat.log2 n + 1

-- The quotient rounded to the nearest integer, a tie to the even one.
def divRoundEven (num den : Nat) : Nat :=
  let q := num / den
  let r := num % den
  if 2 * r > den ∨ (2 * r = den ∧ q % 2 = 1) then q + 1 else q

-- `num / den` in units of `2 ^ e`, as a fraction.
def scaleBinary (num den : Nat) (e : Int) : Nat × Nat :=
  if 0 ≤ e then (num, den * Nat.pow 2 e.toNat) else (num * Nat.pow 2 (-e).toNat, den)

-- The exponent at which `num / den` has 53 binary digits before the point, or the least one.
def roundingExponent (num den : Nat) : Int :=
  let e := max ((bitLength num : Int) - bitLength den - 53) Binary64.minExponent
  let (n, d) := scaleBinary num den e
  if n / d < Nat.pow 2 53 then e else e + 1

-- The number nearest to `num / den`.
def Binary64.ofFraction (negative : Bool) (num den : Nat) : Binary64 :=
  if num = 0 then zero negative
  else
    let e := roundingExponent num den
    let (n, d) := scaleBinary num den e
    let m := divRoundEven n d
    let (m, e) := if m = Nat.pow 2 53 then (Nat.pow 2 52, e + 1) else (m, e)
    if e > maxExponent then .infinite negative else .finite negative m e

-- The number nearest to `digits · 10 ^ exponent`, for `digits` below `10 ^ count`. A value far beyond
-- every finite number, or far nearer to zero than to any other, is settled by its size alone.
def Binary64.ofDecimal (negative : Bool) (digits count : Nat) (exponent : Int) : Binary64 :=
  if digits = 0 ∨ exponent + count < -400 then zero negative
  else if exponent > 400 then .infinite negative
  else if 0 ≤ exponent then ofFraction negative (digits * Nat.pow 10 exponent.toNat) 1
  else ofFraction negative digits (Nat.pow 10 (-exponent).toNat)

-- The integer part, toward zero.
def Binary64.truncate? : Binary64 → Option Int
  | .finite negative m e =>
    let n : Nat := if 0 ≤ e then m * Nat.pow 2 e.toNat else m / Nat.pow 2 (-e).toNat
    some (if negative then -(n : Int) else n)
  | _ => none

end StepCatalog.Number
