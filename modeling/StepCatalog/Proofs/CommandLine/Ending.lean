import Mathlib
import StepCatalog.CommandLine.Transcript

namespace StepCatalog.CommandLine

-- If this does not come to a value, it ends the run with another code than that of success.
def Blocks (x : Except Transcript α) : Prop :=
  ∀ t, x = .error t → t.ending ≠ .exit 0

namespace Blocks

theorem bind {x : Except Transcript α} {f : α → Except Transcript β}
    (hx : Blocks x) (hf : ∀ a, Blocks (f a)) : Blocks (x >>= f) := by
  cases x
  case ok a => exact hf a
  case error t =>
    intro _ h
    cases h
    exact hx t rfl

theorem pure (a : α) : Blocks (Pure.pure a) :=
  fun _ h => nomatch h

theorem mapError {x : Except ε α} {f : ε → Transcript} (h : ∀ e, (f e).ending ≠ .exit 0) :
    Blocks (x.mapError f) := by
  cases x
  case ok => exact Blocks.pure _
  case error e =>
    intro t ht
    cases ht
    exact h e

theorem require (env : Environment) (what : String) (v : OptionValue) :
    Blocks (env.require what v) := by
  intro t ht
  simp only [Environment.require] at ht
  split at ht <;> cases ht <;> simp [Transcript.complain]

end Blocks

section

variable [Runtime]

theorem Transcript.finish_ending_iff {document : Json} {notices : List Notice} :
    (finish env notices 0 document).ending = .exit 0 ↔
      document.printed env.dialect = .ok (finish env notices 0 document).output := by
  simp only [finish]
  cases document.printed env.dialect <;> simp

end

end StepCatalog.CommandLine
