import StepCatalog.CommandLine.MissingSteps
import StepCatalog.CommandLine.SearchSteps

/-!
The program: its first argument names the command, and the others are the command's own. The files
that they may name are read beforehand; documents are read and written by the strict dialect.
-/

namespace StepCatalog.Main

open CommandLine

structure Command where
  name : String
  specs : List OptionSpec
  run : Environment → List String → Transcript

def commands : List Command :=
  [ ⟨"search", SearchSteps.specs, SearchSteps.run⟩,
    ⟨"missing", MissingSteps.specs, MissingSteps.run⟩ ]

def Command.usage (c : Command) : String :=
  "usage: " ++ c.name ++ " " ++ " ".intercalate (c.specs.map OptionSpec.title)

/-! ### Files -/

-- What is at a path; a place that cannot be read as a file is taken for a directory.
def readEntry (path : String) : IO (Option Entry) := do
  try
    return some (.file (← IO.FS.readBinFile path))
  catch
    | .noFileOrDirectory .. => return none
    | _ => return some .directory

-- Puts what is at a path into a tree, at the place that the path leads to.
def addPath (t : FileTree) (arg : String) : IO FileTree := do
  let path := Path.ofString arg
  match ← readEntry path.text with
  | none => return t
  | some e =>
    let t := (t.makeDirectories path.parent).2
    match t.locate path with
    | .ok place => return t.put place e
    | .error _ => return t

-- Every text among the arguments that may be a path, an attached value for itself.
def candidates (args : List String) : List String :=
  MissingSteps.Request.defaultSettings ::
    args.flatMap fun a => [a, String.ofList ((splitEquals a.toList).2.getD [])]

/-! ### Output -/

def writeNotice (stderr : IO.FS.Stream) : Notice → IO Unit
  | .line text => stderr.putStrLn text
  | .log r => do
    stderr.putStrLn r.message
    if let some e := r.fault then stderr.putStrLn e.message

def finish (c : Command) (t : Transcript) : IO UInt32 := do
  let stderr ← IO.getStderr
  let stdout ← IO.getStdout
  t.notices.forM (writeNotice stderr)
  stdout.putStr t.output
  match t.ending with
  | .exit code => return code.toUInt32
  | .help =>
    stdout.putStrLn c.usage
    return 0
  | .usage e =>
    stderr.putStrLn (c.name ++ ": error: " ++ e.message)
    return 2
  | .crash e =>
    stderr.putStrLn e.message
    return 1

end StepCatalog.Main

open StepCatalog in
def main (args : List String) : IO UInt32 := do
  match Main.commands.find? (args.head? == some ·.name) with
  | some c =>
    let files ← (Main.candidates args.tail).foldlM Main.addPath {}
    Main.finish c (c.run ⟨files, .strict⟩ args.tail)
  | none =>
    for c in Main.commands do (← IO.getStderr).putStrLn c.usage
    return 2
