import StepCatalog.Json.Token

/-!
The encoding of a document. A byte order mark tells it, and without one the zero bytes among the
first four do, since a document begins with an ASCII character.
-/

namespace StepCatalog.Json

inductive Endian
  | big | little
  deriving DecidableEq, Repr

inductive Encoding
  | utf8
  | utf16 (order : Endian)
  | utf32 (order : Endian)
  deriving DecidableEq, Repr

namespace Encoding

-- The encoding that a byte order mark tells, and the bytes after the mark.
def ofMark? : List UInt8 → Option (Encoding × List UInt8)
  | 0x00 :: 0x00 :: 0xfe :: 0xff :: rest => some (utf32 .big, rest)
  | 0xff :: 0xfe :: 0x00 :: 0x00 :: rest => some (utf32 .little, rest)
  | 0xfe :: 0xff :: rest => some (utf16 .big, rest)
  | 0xff :: 0xfe :: rest => some (utf16 .little, rest)
  | 0xef :: 0xbb :: 0xbf :: rest => some (utf8, rest)
  | _ => none

-- The encoding that the zero bytes at the start of a document tell.
def ofZeros : List UInt8 → Encoding
  | a :: b :: c :: d :: _ =>
    if a = 0 then (if b = 0 then utf32 .big else utf16 .big)
    else if b = 0 then (if c = 0 ∧ d = 0 then utf32 .little else utf16 .little)
    else utf8
  | [a, b] => if a = 0 then utf16 .big else if b = 0 then utf16 .little else utf8
  | _ => utf8

end Encoding

def byteNumber (order : Endian) (bytes : List UInt8) : Nat :=
  (if order = .big then bytes else bytes.reverse).foldl (fun n b => 256 * n + b.toNat) 0

-- The code units of two bytes each.
def units16? (order : Endian) : List UInt8 → Option (List Nat)
  | [] => some []
  | a :: b :: rest => do return byteNumber order [a, b] :: (← units16? order rest)
  | _ => none

-- The code points of four bytes each.
def points32? (order : Endian) : List UInt8 → Option (List Nat)
  | [] => some []
  | a :: b :: c :: e :: rest => do
    let n := byteNumber order [a, b, c, e]
    if n ≤ 0x10ffff then return n :: (← points32? order rest) else none
  | _ => none

-- The character of a code point.
def charOf? (d : Dialect) (n : Nat) : Option Char :=
  if isHighSurrogate n || isLowSurrogate n then d.loneSurrogate else some (Char.ofNat n)

-- Whether three bytes are a code point that is half of a surrogate pair.
def isSurrogate (a b c : UInt8) : Bool := a == 0xed && 0xa0 ≤ b && b ≤ 0xbf && 0x80 ≤ c && c ≤ 0xbf

-- The bytes of a text, other bytes in place of each half of a surrogate pair.
def replaceSurrogates (substitute : List UInt8) : List UInt8 → List UInt8
  | a :: b :: c :: rest =>
    if isSurrogate a b c then substitute ++ replaceSurrogates substitute rest
    else a :: replaceSurrogates substitute (b :: c :: rest)
  | bytes => bytes

-- Halves of surrogate pairs are no characters; a dialect may have one that stands in for them.
def Encoding.decode? (d : Dialect) (bytes : List UInt8) : Encoding → Option (List Char)
  | utf8 =>
    let bytes := d.loneSurrogate.elim bytes fun c =>
      replaceSurrogates (String.utf8EncodeChar c) bytes
    (String.fromUTF8? ⟨bytes.toArray⟩).map String.toList
  | utf16 order => (units16? order bytes).bind (joinUnits d)
  | utf32 order => (points32? order bytes).bind (·.mapM (charOf? d))

-- The text of a document.
def decodeText? (d : Dialect) (bytes : ByteArray) : Option (List Char) :=
  if d.allowsEncodings then
    let bytes := bytes.toList
    match Encoding.ofMark? bytes with
    | some (encoding, rest) => encoding.decode? d rest
    | none => (Encoding.ofZeros bytes).decode? d bytes
  else (String.fromUTF8? bytes).map String.toList

end StepCatalog.Json
