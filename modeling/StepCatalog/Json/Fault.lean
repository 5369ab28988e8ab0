/-!
What can be wrong with a document that is read or written.
-/

namespace StepCatalog.Json

-- What other values can be nested in.
inductive Container
  | list | object
  deriving DecidableEq, Repr

def Container.tooDeepMessage (c : Container) : String :=
  "maximum recursion depth exceeded while decoding a JSON " ++
    (match c with
      | list => "array"
      | object => "object") ++ " from a unicode string"

-- Why a document cannot be read.
inductive ReadFault
  | malformed
  -- The document is nested too deep, at a list or object that is one too many.
  | tooDeep (container : Container)
  deriving DecidableEq, Repr

-- Why a document cannot be written.
inductive WriteFault
  | wideInteger
  | tooDeep
  deriving DecidableEq, Repr

def WriteFault.message : WriteFault → String
  | wideInteger => "Integer exceeds 64-bit range"
  | tooDeep => "Recursion limit reached"

end StepCatalog.Json
