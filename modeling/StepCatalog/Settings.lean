import StepCatalog.Json.Document

/-!
Settings: the fragments whose paths are excluded. Editing keeps the list free of blank, untrimmed
and repeated entries; a list that is loaded is taken as it is.
-/

namespace StepCatalog

structure Settings where
  excludePaths : List String := []
  deriving DecidableEq, Repr

namespace Settings

-- The fragments that exclude anything.
def fragments (s : Settings) : List String := s.excludePaths.filter fun f => !Text.isBlankText f

-- Adds a fragment unless it is blank or present; tells whether it did.
def add (s : Settings) (fragment : String) : Bool × Settings :=
  let fragment := Text.strip fragment
  if fragment.isEmpty || s.excludePaths.contains fragment then (false, s)
  else (true, { s with excludePaths := s.excludePaths ++ [fragment] })

-- Removes the first entry that is the trimmed fragment; tells whether there was one.
def remove (s : Settings) (fragment : String) : Bool × Settings :=
  let fragment := Text.strip fragment
  if s.excludePaths.contains fragment then
    (true, { s with excludePaths := s.excludePaths.erase fragment })
  else (false, s)

def toJson (s : Settings) : Json :=
  .object [("exclude_paths", .list (s.excludePaths.map .text))]

def textItems? : List Json → Option (List String)
  | [] => some []
  | .text s :: rest => (textItems? rest).map (s :: ·)
  | _ => none

-- What stands in messages for settings that come from no file.
def defaultOrigin : String := "<settings>"

def ofJson (origin : String) : Json → Except Fault Settings
  | .object members =>
    match (members.lookup "exclude_paths").getD (.list []) with
    | .list items =>
      match textItems? items with
      | some texts => .ok ⟨texts⟩
      | none => .error (.excludesNotTexts origin)
    | _ => .error (.excludesNotTexts origin)
  | _ => .error (.settingsNotAnObject origin)

-- Without a file, the settings are empty.
def load (d : Json.Dialect) (t : FileTree) (p : Path) : Except Fault Settings := do
  if ← (t.contains p).mapError .file then ofJson p.text (← Json.load d t p) else return {}

def save [Runtime] (s : Settings) (d : Json.Dialect) (t : FileTree) (p : Path) :
    Except Fault Unit × FileTree :=
  s.toJson.save d t p

end Settings

end StepCatalog
