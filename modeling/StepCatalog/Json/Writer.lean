import StepCatalog.Json.Basic
import StepCatalog.Json.Dialect
import StepCatalog.Json.Fault

/-!
Writing a JSON document with two spaces for each level. Lists and objects without contents stay
on one line.
-/

namespace StepCatalog.Json

-- A code unit in hexadecimal.
def writeUnit (u : Nat) : List Char := '\\' :: 'u' :: Text.hexDigits 4 u

-- A character as one code unit, or as a pair.
def writeUnits (c : Nat) : List Char :=
  if c < 0x10000 then writeUnit c
  else
    writeUnit (0xd800 + (c - 0x10000) / 0x400) ++ writeUnit (0xdc00 + (c - 0x10000) % 0x400)

def writeChar (d : Dialect) (c : Char) : List Char :=
  if c = '"' ∨ c = '\\' then ['\\', c]
  else if c = '\x08' then ['\\', 'b']
  else if c = '\t' then ['\\', 't']
  else if c = '\n' then ['\\', 'n']
  else if c = '\x0c' then ['\\', 'f']
  else if c = '\r' then ['\\', 'r']
  else if c.toNat < 0x20 ∨ (d.asciiOnly ∧ 0x7e < c.toNat) then writeUnits c.toNat
  else [c]

def writeText (d : Dialect) (s : String) : List Char :=
  '"' :: s.toList.flatMap (writeChar d) ++ ['"']

-- A new line at a level.
def newLine (level : Nat) : List Char := '\n' :: List.replicate (2 * level) ' '

-- A number that is not finite has no name in the standard.
def writeFloat (d : Dialect) (x : Number.Binary64) : List Char :=
  if x.isFinite || d.allowsNonFinite then (d.floats.write x).toList else ['n', 'u', 'l', 'l']

mutual

def writeAt (d : Dialect) (level : Nat) : Json → List Char
  | null => ['n', 'u', 'l', 'l']
  | bool b => if b then ['t', 'r', 'u', 'e'] else ['f', 'a', 'l', 's', 'e']
  | int n => (toString n).toList
  | float x => writeFloat d x
  | text s => writeText d s
  | list [] => ['[', ']']
  | list (v :: rest) =>
    '[' :: newLine (level + 1) ++ writeAt d (level + 1) v ++ writeItems d (level + 1) rest ++
      newLine level ++ [']']
  | object [] => ['{', '}']
  | object ((k, v) :: rest) =>
    '{' :: newLine (level + 1) ++ writeText d k ++ [':', ' '] ++ writeAt d (level + 1) v ++
      writeMembers d (level + 1) rest ++ newLine level ++ ['}']

def writeItems (d : Dialect) (level : Nat) : List Json → List Char
  | [] => []
  | v :: rest => ',' :: newLine level ++ writeAt d level v ++ writeItems d level rest

def writeMembers (d : Dialect) (level : Nat) : Members → List Char
  | [] => []
  | (k, v) :: rest =>
    ',' :: newLine level ++ writeText d k ++ [':', ' '] ++ writeAt d level v ++
      writeMembers d level rest

end

-- A list or object inside so many others, where that is one too many.
def depthFault? (d : Dialect) (depth : Nat) : Option WriteFault :=
  if d.maxWrittenDepth.any fun n => n ≤ depth then some .tooDeep else none

mutual

-- The first thing in a document at a depth that the dialect cannot write, if there is one.
def writeFault? (d : Dialect) (depth : Nat) : Json → Option WriteFault
  | int n => if d.holds n then none else some .wideInteger
  | list items => depthFault? d depth <|> itemsFault? d (depth + 1) items
  | object members => depthFault? d depth <|> membersFault? d (depth + 1) members
  | _ => none

def itemsFault? (d : Dialect) (depth : Nat) : List Json → Option WriteFault
  | [] => none
  | v :: rest => writeFault? d depth v <|> itemsFault? d depth rest

def membersFault? (d : Dialect) (depth : Nat) : Members → Option WriteFault
  | [] => none
  | (_, v) :: rest => writeFault? d depth v <|> membersFault? d depth rest

end

-- Writes a document, unless it has something that the dialect cannot write.
def write (d : Dialect) (v : Json) : Except WriteFault String :=
  match writeFault? d 0 v with
  | none => .ok (String.ofList (writeAt d 0 v))
  | some e => .error e

end StepCatalog.Json
