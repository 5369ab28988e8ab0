/-!
Sets of code points, given as closed ranges in ascending order.
-/

namespace StepCatalog.Unicode

-- Membership in ranges that ascend: the search ends at the first range beyond the code point.
def inRanges : List (Nat × Nat) → Nat → Bool
  | [], _ => false
  | (lo, hi) :: rest, c => if c < lo then false else if c ≤ hi then true else inRanges rest c

end StepCatalog.Unicode
