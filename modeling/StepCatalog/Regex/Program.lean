import StepCatalog.Regex.Parser

/-!
Programs: patterns that have been read and found fit for matching.
-/

namespace StepCatalog.Regex

-- A pattern that can be matched: its tree, and the flags it is matched under.
structure Program where
  node : Node
  flags : Flags
  -- No text with fewer characters matches.
  least : Nat
  deriving DecidableEq

namespace Program

-- Lookbehinds reach back no further than this.
def maxLookbehind : Nat := Nat.pow 2 31 - 1

-- Every lookbehind of a tree has a fixed width, and one that is not too large.
def checkLookbehinds (node : Node) : Except Refusal Unit :=
  if node.lookbehinds.any fun w => !w.isFixed then .error (.unmatchable .lookbehindVaries)
  else if node.lookbehinds.any fun w => maxLookbehind < w.least then .error .reachesTooFar
  else .ok ()

def ofPattern (source : List Char) (flags : Flags) : Except Refusal Program := do
  let st ← (Reader.start flags).run 0 (← Token.ofPattern source)
  let node ← st.finish
  checkLookbehinds node
  return ⟨node, st.flags, (node.width st.widthOf).least⟩

end Program

end StepCatalog.Regex
