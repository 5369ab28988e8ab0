import StepCatalog.Fault
import StepCatalog.Json.Reader
import StepCatalog.Json.Writer

/-!
JSON documents in files: one document in a file, or one object on each line. Saved documents have
their keys sorted; documents for the screen keep their order and end their last line.
-/

namespace StepCatalog.Json

-- The fault of a document that cannot be read, given the one of a malformed document.
def readFault (malformed : Fault) : ReadFault → Fault
  | .malformed => malformed
  | .tooDeep container => .nesting container

def load (d : Dialect) (t : FileTree) (p : Path) : Except Fault Json := do
  match t.read p with
  | .error .nullCharacter => throw (.invalidDocument p.text)
  | .error e => throw (.file e)
  | .ok bytes => (decode d bytes).mapError (readFault (.invalidDocument p.text))

section

variable [Runtime]

-- A document that can be shown and saved, as far as its depth goes.
def checkDepth (v : Json) : Except Fault Json :=
  if Runtime.shows v then .ok v else .error .nestedTooDeep

-- The document as it is shown.
def printed (d : Dialect) (v : Json) : Except Fault String := do
  (((← v.checkDepth).write d).map (· ++ "\n")).mapError .writing

-- The document as it is saved.
def saved (d : Dialect) (v : Json) : Except Fault String := do
  ((← v.checkDepth).sorted.write d).mapError .writing

-- Saves a document, after making the directories that the file lies in; those stay.
def save (d : Dialect) (v : Json) (t : FileTree) (p : Path) : Except Fault Unit × FileTree :=
  match t.makeDirectories p.parent with
  | (.error e, t) => (.error (.file e), t)
  | (.ok (), t) =>
    match v.saved d with
    | .error e => (.error e, t)
    | .ok s =>
      match t.write p s.toUTF8 with
      | .error e => (.error (.file e), t)
      | .ok t => (.ok (), t)

end

/-! ### One object on each line -/

-- The lines of a file; one that ends in a line feed ends in an empty line.
def lines : List UInt8 → List (List UInt8)
  | [] => [[]]
  | b :: bs =>
    if b = 0x0a then [] :: lines bs
    else
      match lines bs with
      | [] => [[b]]
      | l :: ls => (b :: l) :: ls

def isBlankByte (b : UInt8) : Bool := b == 0x20 || (0x09 ≤ b && b ≤ 0x0d)

def trimLine (l : List UInt8) : List UInt8 :=
  ((l.dropWhile isBlankByte).reverse.dropWhile isBlankByte).reverse

-- The object on line `number` of a file.
def readLine (d : Dialect) (path : String) (number : Nat) (l : List UInt8) :
    Except Fault Members :=
  match decode d ⟨l.toArray⟩ with
  | .ok (object members) => .ok members
  | .ok _ => .error (.notAnObject path number)
  | .error e => .error (readFault (.invalidLine path number) e)

-- The objects on lines that are not blank; all lines are counted, from `number` on.
def readLines (d : Dialect) (path : String) :
    Nat → List (List UInt8) → Except Fault (List Members)
  | _, [] => .ok []
  | number, l :: ls =>
    let line := trimLine l
    if line.isEmpty then readLines d path (number + 1) ls
    else do
      let members ← readLine d path number line
      return members :: (← readLines d path (number + 1) ls)

def loadLines (d : Dialect) (t : FileTree) (p : Path) : Except Fault (List Members) := do
  let bytes ← (t.read p).mapError .file
  readLines d p.text 1 (lines bytes.toList)

/-! ### Mappings -/

-- Truth values are the keys zero and one.
def sameKey (a b : Json) : Bool := keyCode a == keyCode b
where
  keyCode : Json → String
    | bool b => if b then "1" else "0"
    | text s => Text.quote s
    | v => v.describe

-- An object from a mapping whose keys need not be texts. Of members with equal keys there is one, at
-- the first one's place and with the last one's value.
def ofPairs (pairs : List (Json × Json)) : Json :=
  let distinct := pairs.foldl (fun acc (k, v) =>
    if acc.any fun p => sameKey p.1 k then acc.map fun p => if sameKey p.1 k then (p.1, v) else p
    else acc ++ [(k, v)]) []
  object (distinct.foldl (fun members (k, v) => put k.asText v members) [])

end StepCatalog.Json
