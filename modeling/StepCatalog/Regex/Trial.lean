import StepCatalog.Regex.Node
import StepCatalog.Runtime

/-!
Searching with a memory. A move is tried at a place together with all that is to match after it; a
trial that fails is followed by the next one. What a trial notes down stays noted when it fails,
except where a choice takes it back, so registers go along with every trial and come back from it.
-/

namespace StepCatalog.Regex

-- What a search has noted down.
structure Registers where
  -- The place noted last; a committed part of a pattern hands on the place that it has reached.
  cursor : Nat := 0
  -- Where each group begins and ends, in turn, up to the last bound that holds.
  bounds : List (Option Nat) := []
  deriving DecidableEq, Repr

namespace Registers

def moveTo (r : Registers) (p : Nat) : Registers := { r with cursor := p }

-- Notes a bound; those before it that are not there yet are left open.
def note (r : Registers) (i p : Nat) : Registers :=
  { r with bounds :=
      if i < r.bounds.length then r.bounds.set i (some p)
      else r.bounds ++ List.replicate (i - r.bounds.length) none ++ [some p] }

def enter (r : Registers) (group p : Nat) : Registers := r.note (2 * group - 2) p

def leave (r : Registers) (group p : Nat) : Registers := r.note (2 * group - 1) p

-- The ends of what a group has matched; it takes part once both are known and in order.
def span? (r : Registers) (group : Nat) : Option (Nat × Nat) := do
  let first ← (← r.bounds[2 * group - 2]?)
  let last ← (← r.bounds[2 * group - 1]?)
  if first ≤ last then some (first, last) else none

-- The registers `now` with the bounds taken back to those of `r`: inside a round of a loop all of
-- them, elsewhere only those that have been added.
def undo (r : Registers) (inRound : Bool) (now : Registers) : Registers :=
  { now with bounds := if inRound then r.bounds else now.bounds.take r.bounds.length }

-- Whether a group ends before it begins.
def isReversed (r : Registers) : Bool := go r.bounds
where
  go : List (Option Nat) → Bool
    | first :: last :: rest => (first.any fun a => last.any fun b => b < a) || go rest
    | _ => false

end Registers

-- How a trial went, and what is noted after it.
structure Trial where
  matched : Bool
  registers : Registers
  deriving DecidableEq, Repr

namespace Trial

def success (r : Registers) : Trial := ⟨true, r⟩

def failure (r : Registers) : Trial := ⟨false, r⟩

-- This trial or, if it has failed, another one.
@[inline] def orTry (t : Trial) (next : Registers → Trial) : Trial :=
  if t.matched then t else next t.registers

end Trial

-- What is to match after a place.
abbrev Rest := Nat → Registers → Trial

-- A way to match a part of the text from a place on, given what is to match after it.
abbrev Move := Nat → Registers → Rest → Trial

-- Nothing is left to match; the place is noted.
def Rest.done : Rest := fun p r => .success (r.moveTo p)

namespace Move

-- Tries what comes after a loop.
def leaveLoop : Move := fun p r k => (k p (r.moveTo p)).orTry fun r => .failure (r.moveTo p)

-- Runs a move exactly so many times before the next one.
def times (m next : Move) : Nat → Move
  | 0, p, r, k => next p r k
  | n + 1, p, r, k =>
    (m p (r.moveTo p) fun q r => times m next n q r k).orTry fun r => .failure (r.moveTo p)

-- Runs a move as often as it goes, up to a limit, but not twice from one place.
def greedy (m : Move) : Nat → Option Nat → Move
  | 0, _, p, r, k => leaveLoop p r k
  | n + 1, last, p, r, k =>
    if last = some p then leaveLoop p r k
    else (m p (r.moveTo p) fun q r => greedy m n (some p) q r k).orTry fun _ => leaveLoop p r k

-- Runs a move as seldom as the rest allows; what the rest has noted is taken back first.
def lazy (m : Move) (inRound : Bool) : Nat → Option Nat → Move
  | 0, _, p, r, k =>
    (k p (r.moveTo p)).orTry fun now => .failure ((r.undo inRound now).moveTo p)
  | n + 1, last, p, r, k =>
    (k p (r.moveTo p)).orTry fun now =>
      let r := (r.undo inRound now).moveTo p
      if last = some p then .failure r
      else
        (m p r fun q r => lazy m inRound n (some p) q r k).orTry fun r => .failure (r.moveTo p)

-- Runs a move once and for all: its first success is not reconsidered.
def commit (m : Move) : Move := fun p r k =>
  let t := m p (r.moveTo p) Rest.done
  if t.matched then k t.registers.cursor t.registers else .failure (t.registers.moveTo p)

-- Runs a move so many times from the cursor on, none of them to be reconsidered.
def settle (m : Move) : Nat → Registers → Trial
  | 0, r => .success r
  | n + 1, r =>
    let t := m r.cursor r Rest.done
    if t.matched then settle m n t.registers else t

variable [Runtime]

-- Runs a move from the cursor on until it fails or stays where it is. The bounds that the last trial
-- has noted are taken back; its cursor is too, or else it stays where that trial has left it.
def exhaust (m : Move) : Nat → Option Nat → Registers → Registers
  | 0, _, r => r
  | n + 1, last, r =>
    if last = some r.cursor then r
    else
      let t := m r.cursor r Rest.done
      if t.matched then exhaust m n (some r.cursor) t.registers
      else if Runtime.rewindsLoops then r
      else r.moveTo t.registers.cursor

-- Runs a move as often as it goes, and for good.
def possessive (m : Move) (least extra : Nat) : Move := fun p r k =>
  let t := m.settle least (r.moveTo p)
  if t.matched then
    let r := m.exhaust extra none t.registers
    k r.cursor r
  else .failure (t.registers.moveTo p)

-- Runs a move as a quantifier says, beyond the least number of times up to `extra` times.
def loop (m : Move) (greed : Greed) (inRound : Bool) (least extra : Nat) : Move :=
  match greed with
  | .greedy => m.times (m.greedy extra none) least
  | .lazy => m.times (m.lazy inRound extra none) least
  | .possessive => m.possessive least extra

end Move

end StepCatalog.Regex
