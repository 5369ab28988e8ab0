import StepCatalog.Number.Shortest
import StepCatalog.Text.Quoted

/-!
JSON documents as values. An object keeps its members in the order in which their keys first
appeared; a later member with the same key takes the place of the earlier one.
-/

namespace StepCatalog

inductive Json
  | null
  | bool (b : Bool)
  | int (n : Int)
  | float (x : Number.Binary64)
  | text (s : String)
  | list (items : List Json)
  | object (members : List (String × Json))
  deriving Repr, Inhabited

namespace Json

abbrev Members := List (String × Json)

-- Sets a member: in place of one with the same key, else at the end.
def put (key : String) (value : Json) : Members → Members
  | [] => [(key, value)]
  | (k, v) :: rest => if k = key then (k, value) :: rest else (k, v) :: put key value rest

-- The members with their keys in the order of code points.
def sortMembers (members : Members) : Members := members.mergeSort fun a b => a.1 ≤ b.1

mutual

-- Sorts the members of every object in a document.
def sorted : Json → Json
  | list items => list (sortedItems items)
  | object members => object (sortMembers (sortedMembers members))
  | v => v

def sortedItems : List Json → List Json
  | [] => []
  | v :: rest => v.sorted :: sortedItems rest

def sortedMembers : Members → Members
  | [] => []
  | (k, v) :: rest => (k, v.sorted) :: sortedMembers rest

end

mutual

-- How deep lists and objects are nested in a document.
def depth : Json → Nat
  | list items => itemsDepth items + 1
  | object members => membersDepth members + 1
  | _ => 0

def itemsDepth : List Json → Nat
  | [] => 0
  | v :: rest => max v.depth (itemsDepth rest)

def membersDepth : Members → Nat
  | [] => 0
  | (_, v) :: rest => max v.depth (membersDepth rest)

end

-- Values that stand for the absence of one.
def isVoid : Json → Bool
  | null => true
  | bool b => !b
  | int n => n == 0
  | float x => x.isZero
  | text s => s.isEmpty
  | list items => items.isEmpty
  | object members => members.isEmpty

-- The name of a value's type inside messages.
def typeName : Json → String
  | null => "NoneType"
  | bool _ => "bool"
  | int _ => "int"
  | float _ => "float"
  | text _ => "str"
  | list _ => "list"
  | object _ => "dict"

mutual

-- A value as it appears inside another one, texts in quotes.
def describe : Json → String
  | null => "None"
  | bool b => if b then "True" else "False"
  | int n => toString n
  | float x => Number.DecimalLayout.plain.write x
  | text s => Text.quote s
  | list items => "[" ++ ", ".intercalate (describeItems items) ++ "]"
  | object members => "\x7b" ++ ", ".intercalate (describeMembers members) ++ "\x7d"

def describeItems : List Json → List String
  | [] => []
  | v :: rest => v.describe :: describeItems rest

def describeMembers : Members → List String
  | [] => []
  | (k, v) :: rest => (Text.quote k ++ ": " ++ v.describe) :: describeMembers rest

end

-- The text that a value amounts to: a text is taken as it is.
def asText : Json → String
  | text s => s
  | v => v.describe

end Json

end StepCatalog
