import StepCatalog.Json.Basic
import StepCatalog.Regex.Token

/-!
What the runtime of a program decides. Its releases differ in a few habits, and its stack bounds how
deep documents, values and expressions can be nested.
-/

namespace StepCatalog

-- Documents that are nested no deeper than this fit on every stack.
def Json.plainDepth : Nat := 250

-- How many parentheses are open at most where `n` of them are open before.
def Regex.Token.nesting (n : Nat) : List Token → Nat
  | [] => n
  | .plain '(' :: ts => max n (nesting (n + 1) ts)
  | .plain ')' :: ts => max n (nesting (n - 1) ts)
  | _ :: ts => nesting n ts

class Runtime where
  -- A possessive loop goes back to the place from which its last, failed round has set out.
  rewindsLoops : Bool
  -- Two dashes that are attached to an option are its value, like any other text.
  keepsDashes : Bool
  -- Letters behind a flag which are no flags themselves are left over as an argument.
  keepsLetters : Bool
  -- How deep lists and objects can be nested in a document that the lenient dialect reads.
  readDepth : Nat
  -- Whether the stack is enough to take a value as text.
  describes : Json → Bool
  -- Whether the stack is enough to show or save a document.
  shows : Json → Bool
  -- Whether the stack is enough to compile an expression.
  compiles : List Char → Bool
  plainDepth_le_readDepth : Json.plainDepth ≤ readDepth
  -- The strict dialect reads documents that are nested deeper.
  readDepth_lt : readDepth < 1024
  describes_of_depth_le (v : Json) : v.depth ≤ readDepth → describes v
  shows_of_depth_le (v : Json) : v.depth ≤ Json.plainDepth → shows v
  compiles_of_not_mem (source : List Char) :
    Regex.Token.ofPattern source = .ok ts → .plain '(' ∉ ts → compiles source

namespace Regex.Token

theorem nesting_le (h : .plain '(' ∉ ts) (n : Nat) : nesting n ts ≤ n := by
  fun_induction nesting n ts
  case case1 => exact Nat.le_refl _
  case case2 => simp at h
  case case3 n ts hi =>
    have := hi <| List.not_mem_of_not_mem_cons h
    omega
  case case4 hi => exact hi <| List.not_mem_of_not_mem_cons h

end Regex.Token

-- An early release, and about as much stack as a command leaves to the calls that it makes.
instance Runtime.early : Runtime where
  rewindsLoops := false
  keepsDashes := false
  keepsLetters := false
  readDepth := 980
  describes v := v.depth ≤ 985
  shows v := v.depth ≤ 495
  compiles source :=
    (Regex.Token.ofPattern source).toOption.all fun ts => Regex.Token.nesting 0 ts ≤ 490
  plainDepth_le_readDepth := by decide
  readDepth_lt := by decide
  describes_of_depth_le v h := decide_eq_true <| Nat.le_trans h <| by decide
  shows_of_depth_le v h := decide_eq_true <| Nat.le_trans h <| by decide
  compiles_of_not_mem source ho h := by
    have := Regex.Token.nesting_le h 0
    rw [ho]
    exact decide_eq_true <| Nat.le_trans this <| by decide

end StepCatalog
