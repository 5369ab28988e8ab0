import StepCatalog.Catalog
import StepCatalog.FileTree
import StepCatalog.Json.Fault
import StepCatalog.Text.Integer

/-!
Everything that can go wrong with a listing, a document or a build, each with its message. Faults
of one kind are dealt with alike.
-/

namespace StepCatalog

inductive FaultKind
  | rejectedPattern
  | unusablePattern
  | brokenMatch
  | tooDeep
  | overflow
  | invalidValue
  | wrongType
  | noSuchMember
  | unavailable
  | notFound
  | isDirectory
  | notADirectory
  | alreadyExists
  | nameTooLong
  | listing
  deriving DecidableEq, Repr

inductive Fault
  | pattern (e : PatternError)
  | matching (e : Regex.MatchFault)
  | file (e : FileFault)
  -- A document that is read goes too deep, at a list or an object.
  | nesting (container : Json.Container)
  -- A document that is to be written goes too deep.
  | nestedTooDeep
  -- A value goes too deep to be taken as text.
  | textTooDeep
  | writing (e : Json.WriteFault)
  | invalidDocument (path : String)
  | invalidLine (path : String) (line : Nat)
  | notAnObject (path : String) (line : Nat)
  | settingsNotAnObject (origin : String)
  | excludesNotTexts (origin : String)
  | pathMissing
  | noMember (typeName member : String)
  | notIterable (typeName : String)
  | noSetMember (typeName : String)
  | notGreater (typeName other : String)
  | notANumeral (text : String)
  | numeralTooLong (digits : Nat)
  | notANumber (typeName : String)
  | undefinedNumber
  | infiniteNumber
  | badRecord (index : Nat) (path : String) (cause : Fault)
  | notBuilt
  | unavailable (cause : Fault)
  -- A source of definitions or feature files that fails for reasons of its own.
  | listing (reason : String)
  deriving DecidableEq, Repr

namespace Fault

def kind : Fault → FaultKind
  | pattern (.malformed ..) => .rejectedPattern
  | pattern .countTooLarge | infiniteNumber => .overflow
  | pattern (.countTooLong _) | file .nullCharacter => .invalidValue
  | pattern .nestedTooDeep | nesting _ | nestedTooDeep | textTooDeep => .tooDeep
  | pattern .reachesTooFar => .unusablePattern
  | matching _ => .brokenMatch
  | file (.notFound _) => .notFound
  | file (.isDirectory _) => .isDirectory
  | file (.notADirectory _) => .notADirectory
  | file (.alreadyExists _) => .alreadyExists
  | file (.nameTooLong _) => .nameTooLong
  | invalidDocument _ | invalidLine .. | notAnObject .. | settingsNotAnObject _
  | excludesNotTexts _ | pathMissing | notANumeral _ | numeralTooLong _ | undefinedNumber
  | badRecord .. => .invalidValue
  | noMember .. => .noSuchMember
  | notIterable _ | noSetMember _ | notGreater .. | notANumber _ | writing _ => .wrongType
  | notBuilt | unavailable _ => .unavailable
  | listing _ => .listing

def message : Fault → String
  | pattern e => e.message
  | matching e => e.message
  | file e => e.message
  | nesting container => container.tooDeepMessage
  | nestedTooDeep => PatternError.nestedTooDeep.message
  | textTooDeep => "maximum recursion depth exceeded while getting the repr of an object"
  | writing e => e.message
  | invalidDocument path => "Invalid JSON in " ++ path
  | invalidLine path line => "Invalid JSON at " ++ path ++ ":" ++ toString line
  | notAnObject path line => "Expected a JSON object at " ++ path ++ ":" ++ toString line
  | settingsNotAnObject origin => "Settings payload must be a JSON object: " ++ origin
  | excludesNotTexts origin => "exclude_paths must be a list of strings: " ++ origin
  | pathMissing => "Feature-file record is missing 'path'"
  | noMember typeName member =>
    "'" ++ typeName ++ "' object has no attribute '" ++ member ++ "'"
  | notIterable typeName => "'" ++ typeName ++ "' object is not iterable"
  | noSetMember typeName => "unhashable type: '" ++ typeName ++ "'"
  | notGreater typeName other =>
    "'>' not supported between instances of '" ++ typeName ++ "' and '" ++ other ++ "'"
  | notANumeral text =>
    "invalid literal for int() with base 10: " ++
      String.ofList ((Text.quote text).toList.take 200)
  | numeralTooLong digits => (PatternError.countTooLong digits).message
  | notANumber typeName =>
    "int() argument must be a string, a bytes-like object or a real number, not '" ++ typeName ++
      "'"
  | undefinedNumber => "cannot convert float NaN to integer"
  | infiniteNumber => "cannot convert float infinity to integer"
  | badRecord index path cause =>
    "Bad feature-file record #" ++ toString index ++ " in " ++ path ++ ": " ++ cause.message
  | notBuilt => "Step index has not been built"
  | unavailable cause => "Step definitions unavailable: " ++ cause.message
  | listing reason => reason

end Fault

end StepCatalog
