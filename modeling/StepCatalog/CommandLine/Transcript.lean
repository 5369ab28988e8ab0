import StepCatalog.CommandLine.Options
import StepCatalog.Session

/-!
What running a command amounts to: its output, the notices it gives on the side, and its end.
Commands only read files, so a run is a value.
-/

namespace StepCatalog.CommandLine

-- What goes to the error stream.
inductive Notice
  | line (text : String)
  | log (record : LogRecord)
  deriving DecidableEq, Repr

inductive Ending
  | exit (code : Nat)
  | help
  | usage (e : UsageError)
  -- The command gives up on a fault that it does not report itself.
  | crash (fault : Fault)
  deriving DecidableEq, Repr

structure Transcript where
  ending : Ending
  output : String := ""
  notices : List Notice := []
  deriving DecidableEq, Repr

-- Where a command runs: the files, and the dialect of the documents in them.
structure Environment where
  files : FileTree
  dialect : Json.Dialect

-- Debugging messages are notices only when they are asked for.
def logged (verbose : Bool) (log : List LogRecord) : List Notice :=
  (log.filter fun r => verbose || r.level != .debug).map .log

namespace Transcript

-- Ends with a document as the output, if it can be written.
def finish [Runtime] (env : Environment) (notices : List Notice) (code : Nat) (document : Json) :
    Transcript :=
  match document.printed env.dialect with
  | .ok output => ⟨.exit code, output, notices⟩
  | .error e => ⟨.crash e, "", notices⟩

-- Ends on a complaint about the input.
def complain (text : String) : Transcript := ⟨.exit 1, "", [.line ("Error: " ++ text)]⟩

-- Ends on a fault; one that invalid input causes is reported.
def giveUp (e : Fault) : Transcript :=
  if e.kind = .invalidValue then complain e.message else ⟨.crash e, "", []⟩

end Transcript

/-! ### Values of options -/

namespace OptionValue

-- An option that is given without a value counts as an empty list.
def toJson : OptionValue → Json
  | text s => .text s
  | nothing => .list []

-- The text that is given; without one, the fault of something that is asked of no text.
def textOr (fault : String → Fault) (v : OptionValue) : Except Fault String :=
  match v with
  | text s => .ok s
  | nothing => .error (fault v.toJson.typeName)

def path (v : OptionValue) : Except Fault Path :=
  (v.textOr (.noMember · "exists")).map Path.ofString

end OptionValue

-- The path of a file that has to be there; `what` is the complaint if it is not.
def Environment.require (env : Environment) (what : String) (v : OptionValue) :
    Except Transcript Path :=
  let found : Except Fault (Path × Bool) := do
    let path ← v.path
    return (path, ← (env.files.contains path).mapError .file)
  match found with
  | .error e => .error ⟨.crash e, "", []⟩
  | .ok (path, true) => .ok path
  | .ok (path, false) => .error (.complain (what ++ " not found: " ++ path.text))

-- Runs a command on its arguments once they are read; a fault ends it early.
def runWith [Runtime] (specs : List OptionSpec) (args : List String)
    (run : Parsed → Except Transcript Transcript) : Transcript :=
  match parse specs args with
  | .error e => ⟨.usage e, "", []⟩
  | .ok p =>
    if p.help then ⟨.help, "", []⟩
    else
      match run p with
      | .ok t | .error t => t

end StepCatalog.CommandLine
