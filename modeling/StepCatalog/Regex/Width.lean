import StepCatalog.Regex.Node

/-!
How many characters a tree can match, at least and at most. A lookbehind has to know its width, so
the two must be one number there.
-/

namespace StepCatalog.Regex

namespace Width

-- Widths are counted up to this bound only, and least widths up to the number before it.
def limit : Nat := Nat.pow 2 32 - 1

def capped (least greatest : Nat) : Width := ⟨min least (limit - 1), min greatest limit⟩

def add (a b : Width) : Width := capped (a.least + b.least) (a.greatest + b.greatest)

-- Either of two widths.
def either (a b : Width) : Width := ⟨min a.least b.least, max a.greatest b.greatest⟩

-- The width of a loop; one without an upper bound counts as running `limit` times.
def times (q : Quantifier) (w : Width) : Width :=
  capped (w.least * q.least) (w.greatest * q.most.getD limit)

def isFixed (w : Width) : Bool := w.least = w.greatest

end Width

namespace Node

-- The width of a tree, given the widths of the groups it refers to.
def width (groups : Nat → Width) : Node → Width
  | empty | anchor _ | look .. => ⟨0, 0⟩
  | char _ => ⟨1, 1⟩
  | seq a b => (a.width groups).add (b.width groups)
  | alt a b | conditional _ a b => (a.width groups).either (b.width groups)
  | loop q a => (a.width groups).times q
  | capture _ a | .scoped _ _ a | atomic a => a.width groups
  | backref n => groups n

-- The widths of the lookbehinds in a tree, from left to right, an outer one before its inner ones.
def lookbehinds : Node → List Width
  | empty | char _ | anchor _ | backref _ => []
  | seq a b | alt a b | conditional _ a b => a.lookbehinds ++ b.lookbehinds
  | loop _ a | capture _ a | .scoped _ _ a | atomic a | look none _ a => a.lookbehinds
  | look (some w) _ a => w :: a.lookbehinds

end Node

end StepCatalog.Regex
