import StepCatalog.Json.Encoding
import StepCatalog.Json.Fault

/-!
Reading a JSON document from its tokens. The lists and objects that are open stand on a stack; a
value that is complete goes into the innermost of them.
-/

namespace StepCatalog.Json

-- A list or object that is being read.
inductive Open
  -- The items so far, the last first.
  | list (items : List Json)
  -- The members so far, and the key of the one to come.
  | object (members : Members) (key : String)

-- What may come next.
inductive Expecting
  | value
  | firstItem
  | firstKey
  | key
  | colon
  | separator
  | nothing (document : Json)

structure Reader where
  stack : List Open := []
  expecting : Expecting := .value

-- What a step of the reader leads to.
abbrev Reading := Except ReadFault

namespace Reader

-- Puts a complete value where it belongs.
def complete (v : Json) : List Open → Reader
  | [] => ⟨[], .nothing v⟩
  | .list items :: rest => ⟨.list (v :: items) :: rest, .separator⟩
  | .object members key :: rest => ⟨.object (put key v members) key :: rest, .separator⟩

-- The fault of one list or object too many.
def depthFault (d : Dialect) (container : Container) : ReadFault :=
  if d.reportsDepth then .tooDeep container else .malformed

def openNew (d : Dialect) (stack : List Open) (container : Container) : Reading Reader :=
  if d.maxDepth ≤ stack.length then .error (depthFault d container)
  else
    match container with
    | .list => .ok ⟨.list [] :: stack, .firstItem⟩
    | .object => .ok ⟨.object [] "" :: stack, .firstKey⟩

def readValue (d : Dialect) (stack : List Open) : Token → Reading Reader
  | .scalar v => .ok (complete v stack)
  | .text s => .ok (complete (.text s) stack)
  | .listStart => openNew d stack .list
  | .objectStart => openNew d stack .object
  | _ => .error .malformed

def readKey : List Open → Token → Reading Reader
  | .object members _ :: rest, .text key => .ok ⟨.object members key :: rest, .colon⟩
  | _, _ => .error .malformed

def close : List Open → Token → Reading Reader
  | .list items :: rest, .listEnd => .ok (complete (.list items.reverse) rest)
  | .object members _ :: rest, .objectEnd => .ok (complete (.object members) rest)
  | _, _ => .error .malformed

-- A comma is followed by an item in a list, and by a key in an object.
def next : List Open → Reading Reader
  | .list items :: rest => .ok ⟨.list items :: rest, .value⟩
  | .object members key :: rest => .ok ⟨.object members key :: rest, .key⟩
  | [] => .error .malformed

def step (d : Dialect) (r : Reader) (t : Token) : Reading Reader :=
  match r.expecting, t with
  | .nothing _, _ => .error .malformed
  | .value, t => readValue d r.stack t
  | .firstItem, .listEnd => close r.stack .listEnd
  | .firstItem, t => readValue d r.stack t
  | .firstKey, .objectEnd => close r.stack .objectEnd
  | .firstKey, t => readKey r.stack t
  | .key, t => readKey r.stack t
  | .colon, .colon => .ok ⟨r.stack, .value⟩
  | .colon, _ => .error .malformed
  | .separator, .comma => next r.stack
  | .separator, t => close r.stack t

def run (d : Dialect) : Reader → List Token → Reading Reader
  | r, [] => .ok r
  | r, t :: ts =>
    match r.step d t with
    | .error e => .error e
    | .ok r => run d r ts

end Reader

-- Reads a document from text.
def parse (d : Dialect) (s : List Char) : Except ReadFault Json := do
  match (← Reader.run d {} (tokens d s)).expecting with
  | .nothing v => return v
  | _ => throw .malformed

-- Reads a document from bytes.
def decode (d : Dialect) (bytes : ByteArray) : Except ReadFault Json :=
  match decodeText? d bytes with
  | some s => parse d s
  | none => .error .malformed

end StepCatalog.Json
