import StepCatalog.Regex.Alternatives
import StepCatalog.Regex.Escape
import StepCatalog.Regex.Width
import StepCatalog.Text.Integer
import StepCatalog.Unicode.Identifier

/-!
Reading a pattern. The reader keeps the groups that are open on a stack and takes one step for
each token; a step may use up some of the tokens that follow, and then they are passed over.
-/

namespace StepCatalog.Regex

-- What opened a group, and what becomes of its contents when it is closed.
inductive Opening
  | whole
  | plain
  | capture (index : Nat)
  | scoped (on off : List Flag)
  | atomic
  | ahead (negated : Bool)
  | behind (negated : Bool)
  -- The test of a group, with the branch for success once that has been read.
  | conditional (group : Nat) (yes : Option (List Node))
  deriving DecidableEq

-- What a loop's sign can apply to: one node, or all that stands in a group that only groups.
inductive Piece
  | item (n : Node)
  | bundle (nodes : List Node)
  deriving DecidableEq

namespace Piece

def nodes : Piece → List Node
  | item n => [n]
  | bundle nodes => nodes

def isItem (p : Piece) (holds : Node → Bool) : Bool :=
  match p with
  | item n => holds n
  | bundle _ => false

end Piece

-- A group that is being read.
structure Frame where
  opening : Opening
  -- The number of characters from the opening parenthesis to the end of the pattern.
  start : Nat
  verbose : Bool
  -- The alternatives that are complete, the last one first.
  done : List (List Node) := []
  -- The pieces of the current alternative, the last one first.
  pieces : List Piece := []
  deriving DecidableEq

namespace Frame

def push (f : Frame) (p : Piece) : Frame := { f with pieces := p :: f.pieces }

def current (f : Frame) : List Node := f.pieces.reverse.flatMap Piece.nodes

-- The group's contents, as parts of a sequence.
def body (f : Frame) : List Node := Node.ofAlternatives (f.done.reverse ++ [f.current])

end Frame

-- A character set that is being read.
structure OpenSet where
  start : Nat
  negated : Bool
  -- The members so far, the last one first.
  items : List SetItem := []
  -- A member that a hyphen has followed, with its token.
  low : Option (SetItem × Token) := none
  deriving DecidableEq

-- A single character is no set; it follows its own rule when case is ignored.
def OpenSet.close (s : OpenSet) : CharTest :=
  match s.items.reverse.eraseDups with
  | [.code c] => if s.negated then .notLiteral c else .literal c
  | items => .set s.negated items

structure Reader where
  frame : Frame
  -- The groups around the current one, the innermost first.
  outer : List Frame := []
  openSet : Option OpenSet := none
  -- The widths of the capturing groups in the order of their indices; an open one has none.
  widths : List (Option Width) := []
  names : List (List Char × Nat) := []
  -- The number of groups, the whole pattern among them, when the outermost lookbehind began.
  lookbehindFrom : Option Nat := none
  -- Groups that were tested by number, and where.
  tested : List (Nat × Nat) := []
  flags : Flags
  deriving DecidableEq

namespace Reader

def start (flags : Flags) : Reader where
  frame := { opening := .whole, start := 0, verbose := flags.verbose }
  flags := flags

def push (st : Reader) (n : Node) : Reader := { st with frame := st.frame.push (.item n) }

-- The number of groups, the whole pattern counted as one.
def groupCount (st : Reader) : Nat := st.widths.length + 1

def isClosed (st : Reader) (n : Nat) : Bool :=
  match n with
  | 0 => false
  | i + 1 => (st.widths[i]?.getD none).isSome

def widthOf (st : Reader) (n : Nat) : Width :=
  match n with
  | 0 => ⟨0, 0⟩
  | i + 1 => (st.widths[i]?.getD none).getD ⟨0, 0⟩

-- Inside a lookbehind a group can be referred to if it was closed before the lookbehind began.
def checkLookbehind (st : Reader) (n : Nat) (rest : List Token) : Except Refusal Unit :=
  match st.lookbehindFrom with
  | none => .ok ()
  | some bound =>
    if !st.isClosed n then .error (.malformed .openGroup (Token.extent rest))
    else if bound ≤ n then .error (.malformed .groupInsideLookbehind (Token.extent rest))
    else .ok ()

def backref (st : Reader) (n : Nat) (rest : List Token) (offset : Nat) : Except Refusal Reader := do
  if !st.isClosed n then
    throw (.malformed .openGroup (Token.extent rest + offset))
  st.checkLookbehind n rest
  return st.push (.backref n)

def openFrame (st : Reader) (opening : Opening) (start : Nat) (verbose : Bool) : Reader :=
  { st with
    outer := st.frame :: st.outer
    frame := { opening := opening, start := start, verbose := verbose } }

/-! ### Escapes -/

def readEscape (st : Reader) (c : Char) (ts : List Token) : Except Refusal (Reader × List Token) :=
  match Escape.anchor? c, Escape.category? c, Escape.controlCode? c with
  | some a, _, _ => .ok (st.push (.anchor a), ts)
  | none, some item, _ => .ok (st.push (.char (.set false [item])), ts)
  | none, none, some n => .ok (st.push (.char (.literal n)), ts)
  | none, none, none =>
    if c.isDigit && c != '0' then do
      match ← Escape.readDigits c ts with
      | (.octal code, rest) => return (st.push (.char (.literal code)), rest)
      | (.reference digits, rest) =>
        let n := numberInBase 10 digits
        if n < st.groupCount then
          return (← st.backref n rest (digits.length + 1), rest)
        else throw (.malformed (.noSuchGroup n) (Token.extent rest + digits.length))
    else do
      let (n, rest) ← Escape.readCode c ts fun c ts =>
        if c = '0' then Escape.readOctal c ts else Escape.readLiteral c ts
      return (st.push (.char (.literal n)), rest)

/-! ### Character sets -/

-- A member of a set and the tokens after it.
def readMember (t : Token) (ts : List Token) : Except Refusal (SetItem × List Token) :=
  match t with
  | .plain c => .ok (.code c.toNat, ts)
  | .escaped c => Escape.readInSet c ts

def closeSet (st : Reader) (s : OpenSet) : Reader :=
  { st with openSet := none }.push (.char s.close)

def rangeOf (low high : SetItem) (lowToken highToken : Token) (rest : List Token) :
    Except Refusal SetItem :=
  let bad : Refusal := .malformed (.badRange lowToken.text highToken.text)
    (Token.extent rest + lowToken.width + 1 + highToken.width)
  match low, high with
  | .code l, .code h => if h < l then .error bad else .ok (.range l h)
  | _, _ => .error bad

def stepInSet (st : Reader) (s : OpenSet) (t : Token) (ts : List Token) :
    Except Refusal (Reader × List Token) :=
  match s.low with
  | some (low, lowToken) =>
    if t = .plain ']' then
      .ok (st.closeSet { s with items := .code '-'.toNat :: low :: s.items, low := none }, ts)
    else do
      let (high, rest) ← readMember t ts
      let range ← rangeOf low high lowToken t rest
      return ({ st with openSet := some { s with items := range :: s.items, low := none } }, rest)
  | none =>
    if t = .plain ']' ∧ s.items ≠ [] then .ok (st.closeSet s, ts)
    else do
      let (item, rest) ← readMember t ts
      match rest with
      | .plain '-' :: rest =>
        return ({ st with openSet := some { s with low := some (item, t) } }, rest)
      | _ => return ({ st with openSet := some { s with items := item :: s.items } }, rest)

/-! ### Loops -/

-- Counts beyond this bound are refused.
def maxCount : Nat := Nat.pow 2 32 - 1

def readCount (digits : List Char) : Except Refusal Nat :=
  if digits.length > Text.maxDigits then .error (.countTooLong digits.length)
  else
    let n := numberInBase 10 digits
    if maxCount ≤ n then .error .countTooLarge else .ok n

-- The digits of the bounds in braces; a brace that opens no bounds is a literal.
def readBounds? (ts : List Token) : Option (List Char × List Char × List Token) :=
  if ts.head? = some (.plain '}') then none
  else
    let (low, rest) := Token.spanPlain Char.isDigit ts
    match rest with
    | .plain '}' :: rest => some (low, low, rest)
    | .plain ',' :: rest =>
      match Token.spanPlain Char.isDigit rest with
      | (high, .plain '}' :: rest) => some (low, high, rest)
      | _ => none
    | _ => none

-- The bounds of a loop; `ts` are the tokens after the brace that opens them.
def readQuantifier (low high : List Char) (ts : List Token) :
    Except Refusal (Nat × Option Nat) := do
  let least ← if low.isEmpty then pure 0 else readCount low
  if high.isEmpty then return (least, none)
  let most ← readCount high
  if most < least then throw (.malformed .leastAboveMost (Token.extent ts))
  return (least, some most)

def readGreed (ts : List Token) : Greed × List Token :=
  match ts with
  | .plain '?' :: rest => (.lazy, rest)
  | .plain '+' :: rest => (.possessive, rest)
  | _ => (.greedy, ts)

-- Lets the last item run in a loop; `place` is where the loop's sign stands.
def repeatLast (st : Reader) (least : Nat) (most : Option Nat) (place : Nat) (ts : List Token) :
    Except Refusal (Reader × List Token) :=
  match st.frame.pieces with
  | [] => .error (.malformed .nothingToRepeat place)
  | last :: pieces =>
    if last.isItem Node.isAnchor then .error (.malformed .nothingToRepeat place)
    else if last.isItem Node.isLoop then .error (.malformed .multipleRepeat place)
    else
      let (greed, rest) := readGreed ts
      let body := Node.sequence last.nodes
      .ok ({ st with frame.pieces := .item (.loop ⟨least, most, greed⟩ body) :: pieces }, rest)

/-! ### Groups -/

def isCompatible (on : List Flag) (f : Flag) : Bool :=
  !f.choosesAlphabet || on.all fun g => !g.choosesAlphabet || g == f

-- Why a token is no flag: an unknown letter, or the end that is `missing`.
def flagFault (t : Token) (what : String) : Fault :=
  if t.isPlain fun c => Unicode.isLetter c.toNat then .unknownFlag else .missing what

-- The flags to turn on, the character that ends them, and what follows it.
def readFlagsOn (on : List Flag) : List Token → Except Refusal (List Flag × Char × List Token)
  | .plain c :: ts =>
    match Flag.ofLetter? c with
    | some f =>
      let on := on ++ [f]
      if f = .locale then .error (.malformed .localeFlag (Token.extent ts))
      else if !isCompatible on f then .error (.malformed .alphabetsTogether (Token.extent ts))
      else readFlagsOn on ts
    | none =>
      if on ≠ [] ∧ (c = ')' ∨ c = '-' ∨ c = ':') then .ok (on, c, ts)
      else .error (.malformed (flagFault (.plain c) "-, : or )") (Token.extent ts + 1))
  | t :: ts => .error (.malformed (flagFault t "-, : or )") (Token.extent ts + t.width))
  | [] => .error (.malformed (.missing "-, : or )") 0)

-- The flags to turn off, and what follows the colon after them.
def readFlagsOff (off : List Flag) : List Token → Except Refusal (List Flag × List Token)
  | .plain c :: ts =>
    match Flag.ofLetter? c with
    | some f =>
      if f.choosesAlphabet then .error (.malformed .alphabetTurnedOff (Token.extent ts))
      else readFlagsOff (off ++ [f]) ts
    | none =>
      if off ≠ [] ∧ c = ':' then .ok (off, ts)
      else .error (.malformed (flagFault (.plain c) (if off = [] then "flag" else ":"))
        (Token.extent ts + 1))
  | t :: ts =>
    .error (.malformed (flagFault t (if off = [] then "flag" else ":")) (Token.extent ts + t.width))
  | [] => .error (.malformed (.missing (if off = [] then "flag" else ":")) 0)

-- Flags for the whole pattern can only stand at its very start.
def setGlobalFlags (st : Reader) (on : List Flag) (start : Nat) : Except Refusal Reader :=
  if st.frame.opening = .whole ∧ st.frame.done = [] ∧ st.frame.pieces = [] then
    let flags := st.flags.turnOn on
    .ok { st with flags := flags, frame.verbose := flags.verbose }
  else .error (.malformed .lateGlobalFlags start)

def openScoped (st : Reader) (on off : List Flag) (start : Nat) (ts : List Token) :
    Except Refusal (Reader × List Token) :=
  if off.contains .template then
    .error (.malformed .templateTurnedOff (Token.extent ts + 1))
  else if on.any off.contains then .error (.malformed .flagOnAndOff (Token.extent ts + 1))
  else do
    let verbose := (st.frame.verbose || on.contains .verbose) && !off.contains .verbose
    return (st.openFrame (.scoped on off) start verbose, ts)

def openFlags (st : Reader) (start : Nat) (ts : List Token) :
    Except Refusal (Reader × List Token) := do
  match ts with
  | .plain '-' :: ts =>
    let (off, ts) ← readFlagsOff [] ts
    st.openScoped [] off start ts
  | _ =>
    let (on, mark, ts) ← readFlagsOn [] ts
    if mark = ')' then return (← st.setGlobalFlags on start, ts)
    if on.contains .template then throw (.malformed .templateTurnedOn (Token.extent ts + 1))
    if mark = ':' then st.openScoped on [] start ts
    else
      let (off, ts) ← readFlagsOff [] ts
      st.openScoped on off start ts

def openCapture (st : Reader) (start : Nat) : Reader :=
  { st with widths := st.widths ++ [none] }.openFrame (.capture st.groupCount) start
    st.frame.verbose

def checkName (name : List Char) (ts : List Token) : Except Refusal Unit :=
  if Unicode.isIdentifier name then .ok ()
  else .error (.malformed (.badGroupName (String.ofList name))
    (Token.extent ts + name.length + 1))

def openNamed (st : Reader) (start : Nat) (ts : List Token) :
    Except Refusal (Reader × List Token) := do
  let (name, ts) ← readName '>' "group name" ts
  checkName name ts
  match st.names.lookup name with
  | some earlier =>
    throw (.malformed (.duplicateGroupName (String.ofList name) st.groupCount earlier)
      (Token.extent ts + name.length + 1))
  | none =>
    return ({ st with names := (name, st.groupCount) :: st.names }.openCapture start, ts)

def namedBackref (st : Reader) (ts : List Token) : Except Refusal (Reader × List Token) := do
  let (name, ts) ← readName ')' "group name" ts
  checkName name ts
  match st.names.lookup name with
  | none =>
    throw (.malformed (.unknownGroupName (String.ofList name)) (Token.extent ts + name.length + 1))
  | some n => return (← st.backref n ts (name.length + 1), ts)

-- Group numbers beyond this bound are refused.
def maxGroups : Nat := Nat.pow 2 30 - 1

-- The group that a condition tests, by name or by number.
def testedGroup (st : Reader) (name : List Char) (ts : List Token) :
    Except Refusal (Nat × Reader) :=
  let place := Token.extent ts + name.length + 1
  if Unicode.isIdentifier name then
    match st.names.lookup name with
    | some n => .ok (n, st)
    | none => .error (.malformed (.unknownGroupName (String.ofList name)) place)
  else
    match Text.readInteger name with
    | .ok (.ofNat 0) => .error (.malformed .groupZero place)
    | .ok (.ofNat n) =>
      if maxGroups ≤ n then .error (.malformed (.noSuchGroup n) place)
      else if st.tested.any (·.1 == n) then .ok (n, st)
      else .ok (n, { st with tested := st.tested ++ [(n, place)] })
    | _ => .error (.malformed (.badGroupName (String.ofList name)) place)

def openConditional (st : Reader) (start : Nat) (ts : List Token) :
    Except Refusal (Reader × List Token) := do
  let (name, ts) ← readName ')' "group name" ts
  let (n, st) ← st.testedGroup name ts
  st.checkLookbehind n ts
  return (st.openFrame (.conditional n none) start st.frame.verbose, ts)

def openBehind (st : Reader) (negated : Bool) (start : Nat) : Reader :=
  { st with lookbehindFrom := some (st.lookbehindFrom.getD st.groupCount) }.openFrame
    (.behind negated) start st.frame.verbose

-- Passes over a comment up to its closing parenthesis.
def skipComment (st : Reader) (start : Nat) (ts : List Token) :
    Except Refusal (Reader × List Token) :=
  match ts.dropWhile (· ≠ .plain ')') with
  | [] => .error (.malformed .unterminatedComment start)
  | _ :: rest => .ok (st, rest)

-- A group whose kind is given after a question mark.
def openExtended (st : Reader) (start : Nat) (ts : List Token) :
    Except Refusal (Reader × List Token) :=
  let opened (opening : Opening) (ts : List Token) : Except Refusal (Reader × List Token) :=
    .ok (st.openFrame opening start st.frame.verbose, ts)
  match ts with
  | [] => .error (.malformed .unexpectedEnd 0)
  | .plain ':' :: ts => opened .plain ts
  | .plain '>' :: ts => opened .atomic ts
  | .plain '#' :: ts => st.skipComment start ts
  | .plain '=' :: ts => opened (.ahead false) ts
  | .plain '!' :: ts => opened (.ahead true) ts
  | .plain '(' :: ts => st.openConditional start ts
  | .plain '<' :: ts =>
    match ts with
    | [] => .error (.malformed .unexpectedEnd 0)
    | .plain '=' :: ts => .ok (st.openBehind false start, ts)
    | .plain '!' :: ts => .ok (st.openBehind true start, ts)
    | t :: ts => .error (.malformed (.unknownExtension ("?<" ++ t.text))
        (Token.extent ts + t.width + 2))
  | .plain 'P' :: ts =>
    match ts with
    | [] => .error (.malformed .unexpectedEnd 0)
    | .plain '<' :: ts => st.openNamed start ts
    | .plain '=' :: ts => st.namedBackref ts
    | t :: ts => .error (.malformed (.unknownExtension ("?P" ++ t.text))
        (Token.extent ts + t.width + 2))
  | t :: rest =>
    if t.isPlain fun c => c = '-' || (Flag.ofLetter? c).isSome then st.openFlags start (t :: rest)
    else .error (.malformed (.unknownExtension ("?" ++ t.text))
      (Token.extent rest + t.width + 1))

def openGroup (st : Reader) (ts : List Token) : Except Refusal (Reader × List Token) :=
  let start := Token.extent ts + 1
  match ts with
  | .plain '?' :: ts => st.openExtended start ts
  | _ => .ok (st.openCapture start, ts)

-- What a closed group stands for.
def pieceOf (st : Reader) (f : Frame) : Piece :=
  let body := Node.sequence f.body
  match f.opening with
  | .whole | .plain => .bundle f.body
  | .capture n => .item (.capture n body)
  | .scoped on off => .item (.scoped on off body)
  | .atomic => .item (.atomic body)
  | .ahead negated => .item (.look none negated body)
  | .behind negated => .item (.look (some (body.width st.widthOf)) negated body)
  | .conditional n none => .item (.conditional n (.sequence f.current) .empty)
  | .conditional n (some yes) =>
    .item (.conditional n (.sequence yes) (.sequence f.current))

-- What closing a group settles besides what it stands for.
def settle (st : Reader) (f : Frame) : Reader :=
  match f.opening with
  | .capture n =>
    let width := (Node.sequence f.body).width st.widthOf
    { st with widths := st.widths.set (n - 1) (some width) }
  | .behind _ =>
    if st.outer.any fun g => g.opening matches .behind _ then st
    else { st with lookbehindFrom := none }
  | _ => st

def closeGroup (st : Reader) (ts : List Token) : Except Refusal (Reader × List Token) :=
  match st.outer with
  | [] => .error (.malformed .unbalancedParenthesis (Token.extent ts + 1))
  | parent :: outer =>
    let piece := st.pieceOf st.frame
    .ok ({ st.settle st.frame with frame := parent.push piece, outer := outer }, ts)

def nextAlternative (st : Reader) (ts : List Token) : Except Refusal (Reader × List Token) :=
  match st.frame.opening with
  | .conditional _ (some _) => .error (.malformed .thirdBranch (Token.extent ts + 1))
  | .conditional n none =>
    .ok ({ st with
      frame.opening := .conditional n (some st.frame.current), frame.pieces := [] }, ts)
  | _ =>
    .ok ({ st with frame.done := st.frame.current :: st.frame.done, frame.pieces := [] }, ts)

/-! ### Steps -/

-- Blanks that a verbose pattern does not match.
def isPatternBlank (c : Char) : Bool := c == ' ' || (9 ≤ c.toNat && c.toNat ≤ 13)

def stepPlain (st : Reader) (c : Char) (ts : List Token) : Except Refusal (Reader × List Token) :=
  let place := Token.extent ts + 1
  match c with
  | '|' => st.nextAlternative ts
  | ')' => st.closeGroup ts
  | '(' => st.openGroup ts
  | '^' => .ok (st.push (.anchor .lineStart), ts)
  | '$' => .ok (st.push (.anchor .lineEnd), ts)
  | '.' => .ok (st.push (.char .any), ts)
  | '*' => st.repeatLast 0 none place ts
  | '+' => st.repeatLast 1 none place ts
  | '?' => st.repeatLast 0 (some 1) place ts
  | '{' =>
    match readBounds? ts with
    | none => .ok (st.push (.char (.literal c.toNat)), ts)
    | some (low, high, rest) => do
      let (least, most) ← readQuantifier low high ts
      st.repeatLast least most place rest
  | '[' =>
    match ts with
    | .plain '^' :: rest => .ok ({ st with openSet := some ⟨place, true, [], none⟩ }, rest)
    | _ => .ok ({ st with openSet := some ⟨place, false, [], none⟩ }, ts)
  | c => .ok (st.push (.char (.literal c.toNat)), ts)

-- Reads one token, and returns those that are left to read.
def step (st : Reader) (t : Token) (ts : List Token) : Except Refusal (Reader × List Token) :=
  match st.openSet with
  | some s => st.stepInSet s t ts
  | none =>
    match t with
    | .escaped c => st.readEscape c ts
    | .plain c =>
      if st.frame.verbose && isPatternBlank c then .ok (st, ts)
      else if st.frame.verbose && c == '#' then
        .ok (st, (ts.dropWhile (· ≠ .plain '\n')).drop 1)
      else st.stepPlain c ts

-- Reads tokens, the first `skip` of which an earlier step has used up.
def run (st : Reader) : Nat → List Token → Except Refusal Reader
  | _, [] => .ok st
  | skip + 1, _ :: ts => run st skip ts
  | 0, t :: ts =>
    match st.step t ts with
    | .error e => .error e
    | .ok (st, rest) => run st (ts.length - rest.length) ts

-- The tree of the whole pattern; everything that was opened must be closed.
def finish (st : Reader) : Except Refusal Node :=
  match st.openSet, st.outer with
  | some s, _ => .error (.malformed .unterminatedSet s.start)
  | none, _ :: _ => .error (.malformed .unterminatedGroup st.frame.start)
  | none, [] =>
    match st.tested.find? fun t => st.groupCount ≤ t.1 with
    | some (n, place) => .error (.malformed (.noSuchGroup n) place)
    | none => .ok (.sequence st.frame.body)

end Reader

end StepCatalog.Regex
