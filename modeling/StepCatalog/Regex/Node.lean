/-!
Regular expressions as trees. A tree says nothing about flags but where a group turns some on or
off; the flags in effect are handed down when a text is matched.
-/

namespace StepCatalog.Regex

-- The flags that a pattern can name.
inductive Flag
  | ignoreCase | locale | multiline | dotAll | verbose | ascii | template | unicode
  deriving DecidableEq, Repr

namespace Flag

def ofLetter? : Char → Option Flag
  | 'i' => some ignoreCase
  | 'L' => some locale
  | 'm' => some multiline
  | 's' => some dotAll
  | 'x' => some verbose
  | 'a' => some ascii
  | 't' => some template
  | 'u' => some unicode
  | _ => none

-- The flags that choose an alphabet; at most one of them can hold.
def choosesAlphabet (f : Flag) : Bool := f = ascii ∨ f = locale ∨ f = unicode

end Flag

-- The flags in effect at one place of a pattern.
structure Flags where
  ignoreCase : Bool := false
  multiline : Bool := false
  dotAll : Bool := false
  verbose : Bool := false
  ascii : Bool := false
  deriving DecidableEq, Repr

namespace Flags

def turnOn (fs : Flags) (on : List Flag) : Flags where
  ignoreCase := fs.ignoreCase || on.contains .ignoreCase
  multiline := fs.multiline || on.contains .multiline
  dotAll := fs.dotAll || on.contains .dotAll
  verbose := fs.verbose || on.contains .verbose
  ascii := on.contains .ascii || (fs.ascii && !on.contains .unicode)

def turnOff (fs : Flags) (off : List Flag) : Flags :=
  { fs with
    ignoreCase := fs.ignoreCase && !off.contains .ignoreCase
    multiline := fs.multiline && !off.contains .multiline
    dotAll := fs.dotAll && !off.contains .dotAll
    verbose := fs.verbose && !off.contains .verbose }

end Flags

-- The least and the greatest number of characters that a tree can match.
structure Width where
  least : Nat
  greatest : Nat
  deriving DecidableEq, Repr

inductive Category
  | digit | space | word
  deriving DecidableEq, Repr

-- A member of a character set; code points are numbers, since a pattern can name a surrogate.
inductive SetItem
  | code (c : Nat)
  | range (low high : Nat)
  | category (kind : Category) (negated : Bool)
  deriving DecidableEq, Repr

-- What a single character is tested for.
inductive CharTest
  | any
  | literal (c : Nat)
  | notLiteral (c : Nat)
  | set (negated : Bool) (items : List SetItem)
  deriving DecidableEq, Repr

-- Conditions on a place in the text.
inductive Anchor
  | lineStart | lineEnd | textStart | textEnd | boundary | notBoundary
  deriving DecidableEq, Repr

-- Greedy and lazy loops can give back what they took; a possessive one cannot.
inductive Greed
  | greedy | lazy | possessive
  deriving DecidableEq, Repr

-- How often a loop runs; without `most` there is no upper bound.
structure Quantifier where
  least : Nat
  most : Option Nat
  greed : Greed
  deriving DecidableEq, Repr

-- A pattern, or a part of one. Groups that only group leave no trace: their contents stand among the
-- parts around them.
inductive Node
  | empty
  | char (test : CharTest)
  | anchor (a : Anchor)
  | seq (first second : Node)
  | alt (first second : Node)
  | loop (q : Quantifier) (body : Node)
  | capture (index : Nat) (body : Node)
  | scoped (on off : List Flag) (body : Node)
  -- Once matched, a group that is not tried in another way.
  | atomic (body : Node)
  -- A look at the text that follows, or at the characters of a `behind` width before.
  | look (behind : Option Width) (negated : Bool) (body : Node)
  | backref (group : Nat)
  | conditional (group : Nat) (yes no : Node)
  deriving DecidableEq, Repr

namespace Node

-- One node after the other; a sequence ends in the empty tree.
def sequence (nodes : List Node) : Node := nodes.foldr seq empty

def isAnchor : Node → Bool
  | anchor _ => true
  | _ => false

def isLoop : Node → Bool
  | loop .. => true
  | _ => false

-- A node that matches nothing and asks for nothing, as if it were not there.
def isHollow : Node → Bool
  | empty => true
  | seq a b => a.isHollow && b.isHollow
  | .scoped _ _ a => a.isHollow
  | _ => false

-- The test of a node that is a single character, with the flags that the test is made under.
def single? : Node → Flags → Option (Flags × CharTest)
  | char t, fs => some (fs, t)
  | seq a empty, fs => a.single? fs
  | .scoped on off a, fs => a.single? ((fs.turnOn on).turnOff off)
  | _, _ => none

-- The test that a node begins with, if it begins with one whatever the text is.
def firstTest? : Node → Flags → Option (Flags × CharTest)
  | char t, fs => some (fs, t)
  | seq a b, fs => if a.isHollow then b.firstTest? fs else a.firstTest? fs
  | .scoped on off a, fs => a.firstTest? ((fs.turnOn on).turnOff off)
  | _, _ => none

end Node

end StepCatalog.Regex
