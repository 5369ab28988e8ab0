import StepCatalog.Runtime
import StepCatalog.Text.Integer
import StepCatalog.Text.Quoted
import StepCatalog.Text.Split

/-!
Reading the options of a command. An option can be cut short as long as one option alone begins
that way; its value follows it, or stands behind an equals sign.
-/

namespace StepCatalog.CommandLine

inductive OptionKind
  | help
  | flag
  | text
  | integer
  deriving DecidableEq, Repr

def OptionKind.takesValue (k : OptionKind) : Bool := k = .text ∨ k = .integer

structure OptionSpec where
  names : List String
  kind : OptionKind
  required : Bool := false
  deriving DecidableEq, Repr

namespace OptionSpec

def title (o : OptionSpec) : String := "/".intercalate o.names

-- The name that an option is known by.
def key (o : OptionSpec) : String := o.names.headD ""

end OptionSpec

inductive UsageError
  | ambiguous (arg : String) (candidates : List String)
  | valueMissing (option : String)
  | valueIgnored (option value : String)
  | notAnInteger (option value : String)
  | optionsMissing (options : List String)
  | unrecognized (args : List String)
  deriving DecidableEq, Repr

def UsageError.message : UsageError → String
  | ambiguous arg candidates =>
    "ambiguous option: " ++ arg ++ " could match " ++ ", ".intercalate candidates
  | valueMissing option => "argument " ++ option ++ ": expected one argument"
  | valueIgnored option value =>
    "argument " ++ option ++ ": ignored explicit argument " ++ Text.quote value
  | notAnInteger option value =>
    "argument " ++ option ++ ": invalid int value: " ++ Text.quote value
  | optionsMissing options =>
    "the following arguments are required: " ++ ", ".intercalate options
  | unrecognized args => "unrecognized arguments: " ++ " ".intercalate args

-- What is attached to an option, behind an equals sign or right behind its letter.
structure Attachment where
  bySign : Bool
  text : List Char
  deriving DecidableEq, Repr

-- What one argument is taken for; a value can be attached to an option.
inductive Arg
  | plain (text : String)
  | option (spec : OptionSpec) (name : String) (attached : Option Attachment)
  | unknown (text : String)
  deriving DecidableEq, Repr

/-! ### Telling options from values -/

section

variable (specs : List OptionSpec)

def named (name : String) : Option OptionSpec := specs.find? fun o => o.names.contains name

-- Every name with its option, in the order of the options.
def allNames : List (String × OptionSpec) := specs.flatMap fun o => o.names.map (·, o)

-- The name before the first equals sign, and what is behind it.
def splitEquals (arg : List Char) : List Char × Option (List Char) :=
  let name := arg.takeWhile (· ≠ '=')
  match arg.dropWhile (· ≠ '=') with
  | [] => (name, none)
  | _ :: value => (name, some value)

-- The options that an argument with two dashes may be short for.
def longMatches (arg : List Char) : List (String × OptionSpec × Option Attachment) :=
  let (name, attached) := splitEquals arg
  (allNames specs).filterMap fun (full, o) =>
    if name.isPrefixOf full.toList then some (full, o, attached.map (⟨true, ·⟩)) else none

-- The options of one letter that an argument may begin with, or be short for.
def shortMatches (arg : List Char) : List (String × OptionSpec × Option Attachment) :=
  (allNames specs).filterMap fun (full, o) =>
    if full.toList = arg.take 2 then some (full, o, some ⟨false, arg.drop 2⟩)
    else if arg.isPrefixOf full.toList then some (full, o, none)
    else none

-- A minus sign with digits after it, and perhaps a point among them, is a value.
def isNegativeNumber (arg : List Char) : Bool :=
  match arg with
  | '-' :: s =>
    let s := if s.getLast? = some '\n' then s.dropLast else s
    let isDigit (c : Char) : Bool := Unicode.isDecimal c.toNat
    match s.dropWhile isDigit with
    | [] => !s.isEmpty
    | '.' :: fraction => !fraction.isEmpty && fraction.all isDigit
    | _ => false
  | _ => false

def classify (arg : String) : Except UsageError Arg :=
  match arg.toList with
  | '-' :: second :: rest =>
    let cs := '-' :: second :: rest
    let (name, attached) := splitEquals cs
    match named specs arg, attached, named specs (String.ofList name) with
    | some o, _, _ => .ok (.option o arg none)
    | none, some a, some o => .ok (.option o (String.ofList name) (some ⟨true, a⟩))
    | _, _, _ =>
      match if second = '-' then longMatches specs cs else shortMatches specs cs with
      | [] =>
        if isNegativeNumber cs || cs.contains ' ' then .ok (.plain arg) else .ok (.unknown arg)
      | [(full, o, attached)] => .ok (.option o full attached)
      | several => .error (.ambiguous arg (several.map (·.1)))
  | _ => .ok (.plain arg)

-- Nothing after two dashes alone is an option; the dashes themselves are no value.
def classifyAll : List String → Except UsageError (List Arg)
  | [] => .ok []
  | arg :: rest =>
    if arg = "--" then .ok (.unknown arg :: rest.map .plain)
    else do return (← classify specs arg) :: (← classifyAll rest)

end

/-! ### Collecting values -/

inductive OptionValue
  | text (s : String)
  -- The option is given without a value.
  | nothing
  deriving DecidableEq, Repr

-- The value that is attached to an option; two dashes are none, unless the runtime keeps them.
def OptionValue.ofAttached [Runtime] (value : List Char) : OptionValue :=
  if value = ['-', '-'] ∧ !Runtime.keepsDashes then nothing else text (String.ofList value)

-- The options that were given, in their order, and the arguments that belong to none.
structure Parsed where
  values : List (String × OptionValue) := []
  extras : List String := []
  help : Bool := false
  deriving DecidableEq, Repr

namespace Parsed

def add (p : Parsed) (o : OptionSpec) (value : OptionValue) : Parsed :=
  { p with values := p.values ++ [(o.key, value)] }

def setValue (p : Parsed) (o : OptionSpec) (value : OptionValue) : Except UsageError Parsed :=
  match o.kind, value with
  | .integer, .text s =>
    if (Text.readInteger s.toList).toOption.isNone then .error (.notAnInteger o.title s)
    else .ok (p.add o value)
  | _, _ => .ok (p.add o value)

def setFlag (p : Parsed) (o : OptionSpec) : Parsed :=
  if o.kind = .help then { p with help := true } else p.add o .nothing

def addExtra (p : Parsed) (arg : String) : Parsed := { p with extras := p.extras ++ [arg] }

-- Sets flags in turn; a request for help ends it.
def setFlags : Parsed → List OptionSpec → Parsed
  | p, [] => p
  | p, o :: rest => if p.help then p else setFlags (p.setFlag o) rest

variable [Runtime]

-- The flag `o`, the flags of one letter that stand behind it, and the letters that are left over. A
-- runtime that leaves letters over lets no equals sign stand among the flags.
def grouped (specs : List OptionSpec) (o : OptionSpec) :
    List Char → Except UsageError (List OptionSpec × List Char)
  | [] => .ok ([o], [])
  | c :: cs =>
    match named specs (String.ofList ['-', c]) with
    | none =>
      if Runtime.keepsLetters && c != '-' then .ok ([o], c :: cs)
      else .error (.valueIgnored o.title (String.ofList (c :: cs)))
    | some next =>
      if Runtime.keepsLetters && cs.head? = some '=' then
        .error (.valueIgnored next.title (String.ofList cs.tail))
      else (grouped specs next cs).map fun (os, left) => (o :: os, left)

-- Sets an option that has a value attached to it; behind a single letter it may be more letters.
def setAttached (specs : List OptionSpec) (p : Parsed) (o : OptionSpec) (name : String)
    (a : Attachment) : Except UsageError Parsed :=
  if o.kind.takesValue then p.setValue o (.ofAttached a.text)
  else if "--".toList.isPrefixOf name.toList || a.text.isEmpty ||
      (Runtime.keepsLetters && a.bySign) then
    .error (.valueIgnored o.title (String.ofList a.text))
  else do
    let (os, left) ← grouped specs o a.text
    let p := p.setFlags os
    return if left.isEmpty then p else p.addExtra (String.ofList ('-' :: left))

-- Goes through the arguments; a request for help ends it.
def collect (specs : List OptionSpec) : Parsed → List Arg → Except UsageError Parsed
  | p, [] => .ok p
  | p, .plain text :: rest | p, .unknown text :: rest => collect specs (p.addExtra text) rest
  | p, .option o name (some a) :: rest => do
    let p ← p.setAttached specs o name a
    if p.help then return p
    collect specs p rest
  | p, .option o _ none :: rest =>
    if o.kind.takesValue then
      match rest with
      | .plain value :: rest => do collect specs (← p.setValue o (.text value)) rest
      | _ => .error (.valueMissing o.title)
    else
      let p := p.setFlag o
      if p.help then .ok p else collect specs p rest

/-! ### Values -/

def has (p : Parsed) (key : String) : Bool := p.values.any (·.1 == key)

-- All the values of an option, in order.
def all (p : Parsed) (key : String) : List OptionValue :=
  (p.values.filter (·.1 == key)).map (·.2)

-- The last value of an option.
def last? (p : Parsed) (key : String) : Option OptionValue := (p.all key).getLast?

end Parsed

def helpOption : OptionSpec := ⟨["-h", "--help"], .help, false⟩

-- Reads the arguments of a command; help can always be asked for.
def parse [Runtime] (specs : List OptionSpec) (args : List String) : Except UsageError Parsed := do
  let specs := helpOption :: specs
  let p ← Parsed.collect specs {} (← classifyAll specs args)
  if p.help then return p
  let missing := specs.filter fun o => o.required && !p.has o.key
  if !missing.isEmpty then throw (.optionsMissing (missing.map OptionSpec.title))
  if !p.extras.isEmpty then throw (.unrecognized p.extras)
  return p

end StepCatalog.CommandLine
