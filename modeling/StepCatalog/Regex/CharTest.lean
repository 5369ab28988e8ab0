import StepCatalog.Regex.Node
import StepCatalog.Text.Blank
import StepCatalog.Unicode.Case
import StepCatalog.Unicode.Number

/-!
Testing single characters. The flags choose the alphabet, ASCII or all of Unicode, and whether
letters that differ in case count as the same.
-/

namespace StepCatalog.Regex

/-! ### Letter case -/

def asciiLower (c : Nat) : Nat := if 0x41 ≤ c && c ≤ 0x5a then c + 32 else c

namespace Flags

def foldCase (fs : Flags) (c : Nat) : Nat := if fs.ascii then asciiLower c else Unicode.lower c

-- The folded characters that are the same letter as the folded character `l`.
def variants (fs : Flags) (l : Nat) : List Nat :=
  if fs.ascii then [l] else Unicode.lowerVariants l

-- The characters that fold to `l`.
def unfold (fs : Flags) (l : Nat) : List Nat :=
  if fs.ascii then
    (if asciiLower l = l then [l] else []) ++ (if 0x61 ≤ l && l ≤ 0x7a then [l - 32] else [])
  else Unicode.lowerPreimages l

-- Whether a character from `low` to `high` has case.
def rangeHasCase (fs : Flags) (low high : Nat) : Bool :=
  if fs.ascii then (low ≤ 0x5a && 0x41 ≤ high) || (low ≤ 0x7a && 0x61 ≤ high)
  else Unicode.rangeHasCase low high

def hasCase (fs : Flags) (c : Nat) : Bool :=
  if fs.ascii then fs.rangeHasCase c c else Unicode.hasCase c

-- Whether a pattern's character `k` also stands for other characters.
def folds (fs : Flags) (k : Nat) : Bool := fs.ignoreCase && fs.hasCase k

-- Whether the character `c` of a text passes for the character `k` of a pattern.
def sameChar (fs : Flags) (k c : Nat) : Bool :=
  c == k || (fs.folds k && (fs.variants (fs.foldCase k)).contains (fs.foldCase c))

end Flags

/-! ### Categories and sets -/

def Category.contains (fs : Flags) (c : Nat) : Category → Bool
  | digit => if fs.ascii then 0x30 ≤ c && c ≤ 0x39 else Unicode.isDecimal c
  | space =>
    if fs.ascii then c == 0x20 || (9 ≤ c && c ≤ 13) else Unicode.inRanges Text.blankRanges c
  | word => if fs.ascii then c < 0x80 && Unicode.isWord c else Unicode.isWord c

namespace SetItem

-- The last code point of the plane in which members are folded one by one.
def lastFolded : Nat := 0xffff

-- A member for whose sake the characters of a text are folded before they are looked up.
def needsFolding (fs : Flags) : SetItem → Bool
  | code k => lastFolded < fs.foldCase k || fs.hasCase k
  | range low high => lastFolded < high || fs.rangeHasCase low high
  | category .. => false

-- Membership of a character as it stands.
def contains (fs : Flags) (c : Nat) : SetItem → Bool
  | code k => c == k
  | range low high => low ≤ c && c ≤ high
  | category kind negated => kind.contains fs c != negated

-- Membership of a folded character `l`. A member up to `lastFolded` stands for all characters that are
-- the same letter. Of the members beyond it a single one is compared as it stands, and those of a
-- range with the folded character and with its uppercase.
def containsFolded (fs : Flags) (l : Nat) : SetItem → Bool
  | code k =>
    if fs.foldCase k ≤ lastFolded then (fs.variants (fs.foldCase k)).contains l else l == k
  | range low high =>
    ((fs.variants l).any fun v =>
      (fs.unfold v).any fun k => low ≤ k && k ≤ high && k ≤ lastFolded) ||
      (lastFolded < high &&
        ((low ≤ l && l ≤ high) || (low ≤ Unicode.upper l && Unicode.upper l ≤ high)))
  | category kind negated => kind.contains fs l != negated

end SetItem

-- Whether characters are folded before they are looked up in a set.
def Flags.foldsSet (fs : Flags) (items : List SetItem) : Bool :=
  fs.ignoreCase && items.any (·.needsFolding fs)

namespace CharTest

def accepts (fs : Flags) (c : Nat) : CharTest → Bool
  | any => fs.dotAll || c != 0x0a
  | literal k => fs.sameChar k c
  | notLiteral k => !fs.sameChar k c
  | set negated items =>
    (if fs.foldsSet items then items.any (·.containsFolded fs (fs.foldCase c))
      else items.any (·.contains fs c)) != negated

-- A character or a set to which a text's characters are compared as they stand.
def isPlain (fs : Flags) : CharTest → Bool
  | literal k => !fs.folds k
  | set _ items => !fs.foldsSet items
  | _ => false

-- A test against several characters that fold differently, or against a set of folded ones.
def isCompound (fs : Flags) : CharTest → Bool
  | any => false
  | literal k | notLiteral k => fs.folds k && 1 < (fs.variants (fs.foldCase k)).length
  | set _ items => fs.foldsSet items

end CharTest

end StepCatalog.Regex
