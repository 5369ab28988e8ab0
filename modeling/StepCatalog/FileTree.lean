import StepCatalog.Path
import StepCatalog.Text.Quoted

/-!
Files and directories as values. The root, the working directory and the directories above it are
always there; everything else is there once it has been put there.
-/

namespace StepCatalog

-- Why a path cannot be used as it is meant to.
inductive FileFault
  | notFound (path : String)
  | isDirectory (path : String)
  | notADirectory (path : String)
  | alreadyExists (path : String)
  | nameTooLong (path : String)
  | nullCharacter
  deriving DecidableEq, Repr

namespace FileFault

def message : FileFault → String
  | notFound path => "[Errno 2] No such file or directory: " ++ Text.quote path
  | isDirectory path => "[Errno 21] Is a directory: " ++ Text.quote path
  | notADirectory path => "[Errno 20] Not a directory: " ++ Text.quote path
  | alreadyExists path => "[Errno 17] File exists: " ++ Text.quote path
  | nameTooLong path => "[Errno 36] File name too long: " ++ Text.quote path
  | nullCharacter => "embedded null byte"

end FileFault

inductive Entry
  | file (content : ByteArray)
  | directory

-- Entries by their places: paths in which double dots stand at the front only.
structure FileTree where
  entries : List (Path × Entry) := []

namespace FileTree

def entry? (t : FileTree) (place : Path) : Option Entry :=
  if place.climbs then some .directory else t.entries.lookup place

def put (t : FileTree) (place : Path) (e : Entry) : FileTree where
  entries := (place, e) :: t.entries.filter fun x => x.1 != place

-- Names have no more bytes than this.
def maxNameBytes : Nat := 255

-- Paths have fewer bytes than this.
def maxPathBytes : Nat := 4096

-- The place that components lead to from a directory; all but the last must be directories.
def walk (t : FileTree) (path : String) : Path → List String → Except FileFault Path
  | here, [] => .ok here
  | here, ".." :: rest => walk t path here.above rest
  | here, name :: rest =>
    let place := here.child name
    if maxNameBytes < name.utf8ByteSize then .error (.nameTooLong path)
    else if rest.isEmpty then .ok place
    else
      match t.entry? place with
      | none => .error (.notFound path)
      | some (.file _) => .error (.notADirectory path)
      | some .directory => walk t path place rest

def locate (t : FileTree) (p : Path) : Except FileFault Path :=
  if p.text.toList.contains '\x00' then .error .nullCharacter
  else if maxPathBytes ≤ p.text.utf8ByteSize then .error (.nameTooLong p.text)
  else t.walk p.text ⟨p.root, []⟩ p.parts

-- Whether anything is at a path. A path that leads nowhere has nothing; too long a one is a fault.
def contains (t : FileTree) (p : Path) : Except FileFault Bool :=
  match t.locate p with
  | .ok place => .ok (t.entry? place).isSome
  | .error (.nameTooLong path) => .error (.nameTooLong path)
  | .error _ => .ok false

def read (t : FileTree) (p : Path) : Except FileFault ByteArray := do
  match t.entry? (← t.locate p) with
  | none => throw (.notFound p.text)
  | some .directory => throw (.isDirectory p.text)
  | some (.file content) => return content

def write (t : FileTree) (p : Path) (content : ByteArray) : Except FileFault FileTree := do
  let place ← t.locate p
  match t.entry? place with
  | some .directory => throw (.isDirectory p.text)
  | _ => return t.put place (.file content)

-- Makes one directory, unless it is there already.
def makeDirectory (t : FileTree) (p : Path) : Except FileFault FileTree := do
  let place ← t.locate p
  match t.entry? place with
  | some .directory => return t
  | some (.file _) => throw (.alreadyExists p.text)
  | none => return t.put place .directory

-- Makes the directories of a path, its components given last first: the ones above are made only
-- where one is missing. What has been made stays, also when a fault ends it.
def makeDirectoriesFrom (root : String) (t : FileTree) :
    List String → Except FileFault Unit × FileTree
  | [] => (.ok (), t)
  | name :: above =>
    let path : Path := ⟨root, (name :: above).reverse⟩
    match t.makeDirectory path with
    | .ok t => (.ok (), t)
    | .error (.notFound _) =>
      match makeDirectoriesFrom root t above with
      | (.ok (), t) =>
        match t.makeDirectory path with
        | .ok t => (.ok (), t)
        | .error e => (.error e, t)
      | failed => failed
    | .error e => (.error e, t)

def makeDirectories (t : FileTree) (p : Path) : Except FileFault Unit × FileTree :=
  makeDirectoriesFrom p.root t p.parts.reverse

-- Writes a file, after making the directories that it lies in; those stay.
def writeDeep (t : FileTree) (p : Path) (content : ByteArray) : Except FileFault Unit × FileTree :=
  match t.makeDirectories p.parent with
  | (.ok (), t) =>
    match t.write p content with
    | .ok t => (.ok (), t)
    | .error e => (.error e, t)
  | failed => failed

end FileTree

end StepCatalog
