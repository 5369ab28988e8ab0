import StepCatalog.Text.Quoted

/-!
What can be wrong with a pattern, and where. A place is kept as the number of characters from it
to the end of the pattern, so that text put in front of a pattern moves no place in it.
-/

namespace StepCatalog.Regex

inductive Fault
  | unterminatedGroup
  | unbalancedParenthesis
  | nothingToRepeat
  | multipleRepeat
  | leastAboveMost
  | unterminatedSet
  | badRange (low high : String)
  | badEscape (text : String)
  | incompleteEscape (text : String)
  | octalTooLarge (text : String)
  | noSuchGroup (index : Nat)
  | openGroup
  | groupInsideLookbehind
  | missing (what : String)
  | unterminatedName (terminator : Char)
  | badGroupName (name : String)
  | unknownGroupName (name : String)
  | duplicateGroupName (name : String) (index earlier : Nat)
  | groupZero
  | thirdBranch
  | unknownExtension (text : String)
  | unterminatedComment
  | unexpectedEnd
  | unknownFlag
  | lateGlobalFlags
  | flagOnAndOff
  | alphabetTurnedOff
  | alphabetsTogether
  | localeFlag
  | templateTurnedOn
  | templateTurnedOff
  | unknownCharacterName (name : String)
  | lookbehindVaries
  deriving DecidableEq, Repr

def Fault.message : Fault → String
  | unterminatedGroup => "missing ), unterminated subpattern"
  | unbalancedParenthesis => "unbalanced parenthesis"
  | nothingToRepeat => "nothing to repeat"
  | multipleRepeat => "multiple repeat"
  | leastAboveMost => "min repeat greater than max repeat"
  | unterminatedSet => "unterminated character set"
  | badRange low high => "bad character range " ++ low ++ "-" ++ high
  | badEscape text => "bad escape " ++ text
  | incompleteEscape text => "incomplete escape " ++ text
  | octalTooLarge text => "octal escape value " ++ text ++ " outside of range 0-0o377"
  | noSuchGroup n => "invalid group reference " ++ toString n
  | openGroup => "cannot refer to an open group"
  | groupInsideLookbehind =>
    "cannot refer to group defined in the same lookbehind subpattern"
  | missing what => "missing " ++ what
  | unterminatedName terminator => "missing " ++ terminator.toString ++ ", unterminated name"
  | badGroupName name => "bad character in group name " ++ Text.quote name
  | unknownGroupName name => "unknown group name " ++ Text.quote name
  | duplicateGroupName name n earlier =>
    "redefinition of group name " ++ Text.quote name ++ " as group " ++ toString n ++
      "; was group " ++ toString earlier
  | groupZero => "bad group number"
  | thirdBranch => "conditional backref with more than two branches"
  | unknownExtension text => "unknown extension " ++ text
  | unterminatedComment => "missing ), unterminated comment"
  | unexpectedEnd => "unexpected end of pattern"
  | unknownFlag => "unknown flag"
  | lateGlobalFlags => "global flags not at the start of the expression"
  | flagOnAndOff => "bad inline flags: flag turned on and off"
  | alphabetTurnedOff => "bad inline flags: cannot turn off flags 'a', 'u' and 'L'"
  | alphabetsTogether => "bad inline flags: flags 'a', 'u' and 'L' are incompatible"
  | localeFlag => "bad inline flags: cannot use 'L' flag with a str pattern"
  | templateTurnedOn => "bad inline flags: cannot turn on global flag"
  | templateTurnedOff => "bad inline flags: cannot turn off global flag"
  | unknownCharacterName name => "undefined character name " ++ Text.quote name
  | lookbehindVaries => "look-behind requires fixed-width pattern"

-- Why a pattern is refused.
inductive Refusal
  -- The pattern is malformed, at a place so many characters before its end.
  | malformed (fault : Fault) (fromEnd : Nat)
  -- The pattern is malformed as a whole.
  | unmatchable (fault : Fault)
  | countTooLarge
  | countTooLong (digits : Nat)
  -- A lookbehind in it reaches back too far.
  | reachesTooFar
  deriving DecidableEq, Repr

-- Why a pattern that can be matched has no answer for a text.
inductive MatchFault
  -- A group of the match ends before it begins.
  | reversedGroup
  deriving DecidableEq, Repr

def MatchFault.message : MatchFault → String
  | reversedGroup => "The span of capturing group is wrong, please report a bug for the re module."

-- The place `offset` characters into a text, in words; lines are told apart if there are any.
def describePlace (source : List Char) (offset : Nat) : String :=
  let before := source.take offset
  "at position " ++ toString offset ++
    if source.contains '\n' then
      " (line " ++ toString (before.count '\n' + 1) ++ ", column " ++
        toString ((before.reverse.takeWhile (· ≠ '\n')).length + 1) ++ ")"
    else ""

end StepCatalog.Regex
