/-!
File paths with slashes. Empty components and single dots are dropped; double dots stay.
-/

namespace StepCatalog

structure Path where
  -- Nothing for a relative path, else one slash or two.
  root : String
  parts : List String
  deriving DecidableEq, Repr

namespace Path

def rootOf : List Char → String
  | '/' :: '/' :: '/' :: _ => "/"
  | '/' :: '/' :: _ => "//"
  | '/' :: _ => "/"
  | _ => ""

def ofString (s : String) : Path where
  root := rootOf s.toList
  parts := (s.splitOn "/").filter fun p => p ≠ "" ∧ p ≠ "."

def isRelative (p : Path) : Bool := p.root.isEmpty

def text (p : Path) : String :=
  if p.root.isEmpty && p.parts.isEmpty then "." else p.root ++ "/".intercalate p.parts

/-! ### Places -/

def child (p : Path) (name : String) : Path := { p with parts := p.parts ++ [name] }

-- A path without its last component.
def parent (p : Path) : Path := { p with parts := p.parts.dropLast }

-- A path that goes up at every step: it ends in the directory it starts from, or above it.
def climbs (p : Path) : Bool := p.parts.all (· == "..")

-- The directory that a place lies in; the root lies in itself.
def above (p : Path) : Path :=
  if !p.climbs then p.parent else if p.isRelative then p.child ".." else p

/-! ### Names -/

-- A name without its suffix; a dot at either end begins none.
def stemOf (name : List Char) : List Char :=
  let suffix := name.reverse.takeWhile (· ≠ '.')
  let stem := name.take (name.length - suffix.length - 1)
  if suffix.isEmpty ∨ stem.isEmpty then name else stem

-- The last component without its suffix.
def stem (p : Path) : String :=
  match p.parts.getLast? with
  | none => ""
  | some name => String.ofList (stemOf name.toList)

end Path

end StepCatalog
