import StepCatalog.Unicode.Printable

/-!
The quoted form of a text, in which it appears inside messages. Single quotes enclose it unless it
holds one and no double quote; unprintable characters are written as hexadecimal escapes.
-/

namespace StepCatalog.Text

-- The low `width` hexadecimal digits of a number.
def hexDigits : Nat → Nat → List Char
  | 0, _ => []
  | width + 1, n => hexDigits width (n / 16) ++ [Nat.digitChar (n % 16)]

def escapeUnprintable (c : Nat) : List Char :=
  if c < 0x100 then '\\' :: 'x' :: hexDigits 2 c
  else if c < 0x10000 then '\\' :: 'u' :: hexDigits 4 c
  else '\\' :: 'U' :: hexDigits 8 c

def quoteChar (mark c : Char) : List Char :=
  if c = mark ∨ c = '\\' then ['\\', c]
  else if c = '\t' then ['\\', 't']
  else if c = '\n' then ['\\', 'n']
  else if c = '\r' then ['\\', 'r']
  else if Unicode.isPrintable c.toNat then [c]
  else escapeUnprintable c.toNat

-- The mark that spares escapes: double quotes around single ones, else single quotes.
def quoteMark (s : List Char) : Char := if s.contains '\'' && !s.contains '"' then '"' else '\''

def quoteChars (s : List Char) : List Char :=
  let mark := quoteMark s
  mark :: s.flatMap (quoteChar mark) ++ [mark]

def quote (s : String) : String := String.ofList (quoteChars s.toList)

end StepCatalog.Text
