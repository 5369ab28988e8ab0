import StepCatalog.Regex.CharTest
import StepCatalog.Regex.Program
import StepCatalog.Regex.Trial

/-!
Matching by backtracking. A node is a move: of its ways to match, the first one under which the rest
matches too is taken. A whole text matches when the tree can be run from its start such that nothing
is left.
-/

namespace StepCatalog.Regex

-- Where a node stands in its pattern.
structure Setting where
  flags : Flags
  -- Whether it is inside a round of a loop.
  inRound : Bool := false
  -- The nodes that are matched right after it, the nearest first, with their flags.
  next : List (Flags × Node) := []

namespace Setting

-- A node that something else than another node comes after.
def last (s : Setting) : Setting := { s with next := [] }

-- The character that has to come next for the rest to match, where it is known.
def nextChar? (s : Setting) : Option Nat := do
  let (fs, n) ← s.next.find? fun n => !n.2.isHollow
  match ← n.firstTest? fs with
  | (fs, .literal k) => if fs.folds k then none else some k
  | _ => none

end Setting

section

variable [Runtime] (text : Array Char)

def hasCharAt (p : Nat) (holds : Nat → Bool) : Bool := text[p]?.any fun c => holds c.toNat

/-! ### Anchors -/

def isWordAt (fs : Flags) (p : Nat) : Bool := hasCharAt text p fun c => Category.word.contains fs c

-- A boundary parts a word character from another character or from an end of the text.
def isBoundary (fs : Flags) (p : Nat) : Bool :=
  (0 < p && isWordAt text fs (p - 1)) != isWordAt text fs p

def Anchor.holds (fs : Flags) (p : Nat) : Anchor → Bool
  | lineStart => p == 0 || (fs.multiline && text[p - 1]? == some '\n')
  | lineEnd =>
    p == text.size || (text[p]? == some '\n' && (fs.multiline || p + 1 == text.size))
  | textStart => p == 0
  | textEnd => p == text.size
  | boundary => text.size != 0 && isBoundary text fs p
  | notBoundary => text.size != 0 && !isBoundary text fs p

/-! ### Groups -/

-- Whether the text at two places agrees over so many characters.
def agrees (fs : Flags) (a b : Nat) : Nat → Bool
  | 0 => true
  | n + 1 =>
    (match text[a]?, text[b]? with
      | some c, some d =>
        if fs.ignoreCase then fs.foldCase c.toNat == fs.foldCase d.toNat else c == d
      | _, _ => false) && agrees fs (a + 1) (b + 1) n

-- Matches what a group has matched before.
def Move.again (fs : Flags) (group : Nat) : Move := fun p r k =>
  match r.span? group with
  | some (first, last) =>
    if agrees text fs first p (last - first) then k (p + (last - first)) r else .failure r
  | none => .failure r

/-! ### Alternatives -/

-- A node that begins with a plain test which the character at a place does not pass.
def isHopeless (fs : Flags) (n : Node) (p : Nat) : Bool :=
  match n.firstTest? fs with
  | some (fs, t) => t.isPlain fs && !hasCharAt text p (t.accepts fs)
  | none => false

-- Tries one of several alternatives, unless it is hopeless.
def Move.alternative (s : Setting) (n : Node) (m : Move) : Move := fun p r k =>
  if isHopeless text s.flags n p then .failure r
  else (m p (r.moveTo p) k).orTry fun now => .failure (r.undo s.inRound now)

/-! ### Loops of one character -/

-- The end of the characters from a place on that pass a test, at most so many of them.
def passEnd (passes : Nat → Bool) : Nat → Nat → Nat
  | 0, p => p
  | n + 1, p => if hasCharAt text p passes then passEnd passes n (p + 1) else p

-- Tries the rest at one of several places, and takes back what it has noted if that fails.
def Move.stop (inRound : Bool) : Move := fun p r k =>
  (k p (r.moveTo p)).orTry fun now => .failure (r.undo inRound now)

-- Tries the rest from place `low + n` down to place `low`, but only where a wanted character is.
def giveBack (inRound : Bool) (wanted : Option Nat) (k : Rest) (low : Nat) :
    Nat → Registers → Trial
  | 0, r => tryAt low r
  | n + 1, r => (tryAt (low + (n + 1)) r).orTry fun r => giveBack inRound wanted k low n r
where
  tryAt (p : Nat) (r : Registers) : Trial :=
    if wanted.all fun c => hasCharAt text p (· == c) then Move.stop inRound p r k
    else .failure r

-- Tries the rest after as few characters as possible, up to `n` of them.
def takeMore (inRound compound : Bool) (passes : Nat → Bool) (k : Rest) :
    Nat → Nat → Registers → Trial
  | n, p, r =>
    (Move.stop inRound p r k).orTry fun r =>
      if hasCharAt text p passes then
        let r := r.moveTo (if compound then p + 1 else p)
        match n with
        | 0 => .failure r
        | n + 1 => takeMore inRound compound passes k n (p + 1) r
      else .failure (r.moveTo p)

-- A loop of a single character. Its characters are counted in advance, and a compound test leaves the
-- cursor after the ones that were counted.
def Move.repeatChar (s : Setting) (q : Quantifier) (fs : Flags) (t : CharTest) : Move :=
  fun p r k =>
    let left := text.size - p
    if left < q.least then .failure r
    else
      let most := min (q.most.getD left) left
      let counted := if q.greed = .lazy then q.least else most
      let reached := passEnd text (t.accepts fs) counted p
      let r := r.moveTo (if t.isCompound fs then reached else p)
      if reached < p + q.least then .failure r
      else
        match q.greed with
        | .greedy =>
          giveBack text s.inRound s.nextChar? k (p + q.least) (reached - (p + q.least)) r
        | .lazy =>
          takeMore text s.inRound (t.isCompound fs) (t.accepts fs) k (most - q.least) reached r
        | .possessive => k reached r

/-! ### Nodes -/

-- How many rounds beyond the least number a loop can run before it stays at one place.
def extraRounds (q : Quantifier) : Nat :=
  let bound := (text.size + 1) * (text.size + 1)
  q.most.elim bound fun most => min (most - q.least) bound

def Node.run : Node → Setting → Move
  | .empty, _, p, r, k => k p r
  | .char t, s, p, r, k =>
    if hasCharAt text p (t.accepts s.flags) then k (p + 1) r else .failure r
  | .anchor a, s, p, r, k => if a.holds text s.flags p then k p r else .failure r
  | .seq a b, s, p, r, k =>
    a.run { s with next := (s.flags, b) :: s.next } p r fun p r => b.run s p r k
  | .alt a b, s, p, r, k =>
    (Move.alternative text s a (a.run s.last) p r k).orTry fun r =>
      if b matches .alt .. then b.run s p r k
      else Move.alternative text s b (b.run s.last) p r k
  | .loop q a, s, p, r, k =>
    match a.single? s.flags with
    | some (fs, t) => Move.repeatChar text s q fs t p r k
    | none =>
      let inside : Setting := { s.last with inRound := s.inRound || q.greed != .possessive }
      Move.loop (a.run inside) q.greed s.inRound q.least (extraRounds text q) p r k
  | .capture n a, s, p, r, k => a.run s.last p (r.enter n p) fun p r => k p (r.leave n p)
  | .scoped on off a, s, p, r, k =>
    a.run { s with flags := (s.flags.turnOn on).turnOff off } p r k
  | .atomic a, s, p, r, k => Move.commit (a.run s.last) p r k
  | .look behind negated a, s, p, r, k =>
    let width := behind.elim 0 Width.least
    if p < width then
      if negated then k p r else .failure r
    else
      let t := a.run s.last (p - width) (r.moveTo (p - width)) Rest.done
      if negated then
        if t.matched then .failure t.registers else k p (r.undo s.inRound t.registers)
      else if t.matched then k p t.registers
      else t
  | .backref n, s, p, r, k => Move.again text s.flags n p r k
  | .conditional n yes no, s, p, r, k =>
    if (r.span? n).isSome then
      yes.run (if no matches .empty then s else s.last) p r k
    else no.run s p r k

end

namespace Program

-- Whether the whole of a text matches. A match in which a group ends before it begins is no answer at
-- all.
def fullMatch [Runtime] (program : Program) (text : List Char) : Except MatchFault Bool :=
  let text := text.toArray
  if text.size < program.least then .ok false
  else
    let t := program.node.run text { flags := program.flags } 0 {} fun p r =>
      if p = text.size then .success (r.moveTo p) else .failure r
    if t.matched && t.registers.isReversed then .error .reversedGroup else .ok t.matched

end Program

end StepCatalog.Regex
