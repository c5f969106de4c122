import Infochart.Decimal.Numeral
import Infochart.Export
import Infochart.Text.Search

/-!
# Arguments of the command

Flags have a long name, and those with a value a letter as well. A value follows its flag, or it is
attached to it. Each flag may come once, and nothing but flags may come at all.
-/

namespace Infochart.Command

inductive Flag where
  | input
  | output
  | format
  | config
  | sheet
  | template
  | width
  | height
  | logLevel
  | layers
  | validate
  deriving DecidableEq, Repr

namespace Flag

def hasValue : Flag → Bool
  | .layers | .validate => false
  | _ => true

def names : List (String × Flag) :=
  [("input", .input), ("output", .output), ("outputFormat", .format), ("configFile", .config),
   ("sheet", .sheet), ("template", .template), ("width", .width), ("height", .height),
   ("log-level", .logLevel), ("layers", .layers), ("validate", .validate)]

/-- The letters, all of flags that have a value. -/
def letters : List (Char × Flag) :=
  [('i', .input), ('o', .output), ('e', .format), ('c', .config), ('s', .sheet), ('t', .template),
   ('w', .width), ('H', .height)]

def ofName? (name : List Char) : Option Flag :=
  names.lookup (String.ofList name)

def ofLetter? (c : Char) : Option Flag :=
  letters.lookup c

end Flag

/-- A flag as it was given, with its value; a flag without one has the empty text. -/
abbrev Given := Flag × List Char

/-- A long flag, cut into its name and the value that is attached to it. -/
def splitLong (s : List Char) : List Char × Option (List Char) :=
  match Text.splitFirst '=' s with
  | some (name, value) => (name, some value)
  | none => (s, none)

/-- The value behind a letter, with or without a sign between them. -/
def attached : List Char → List Char
  | '=' :: r => r
  | r => r

/-- Whether an argument can be the value of the flag before it. A dash alone can. -/
def isValue : List Char → Bool
  | ['-'] => true
  | '-' :: _ => false
  | _ => true

/-- The flags that were given, in order. The flag `pending` waits for its value. -/
def givenFrom : Option Flag → List (List Char) → Option (List Given)
  | none, [] => some []
  | some _, [] => none
  | some flag, value :: r =>
    if isValue value then (givenFrom none r).map ((flag, value) :: ·) else none
  | none, a :: r =>
    match a with
    | ['-', '-'] => if r.isEmpty then some [] else none
    | '-' :: '-' :: long =>
      let (name, value) := splitLong long
      match Flag.ofName? name, value with
      | some flag, some v =>
        if flag.hasValue then (givenFrom none r).map ((flag, v) :: ·) else none
      | some flag, none =>
        if flag.hasValue then givenFrom (some flag) r else (givenFrom none r).map ((flag, []) :: ·)
      | none, _ => none
    | '-' :: letter :: rest =>
      match Flag.ofLetter? letter with
      | some flag =>
        if rest.isEmpty then givenFrom (some flag) r
        else (givenFrom none r).map ((flag, attached rest) :: ·)
      | none => none
    | _ => none

structure Arguments where
  input : Option String := none
  output : Option String := none
  format : Option Export.Format := none
  config : Option String := none
  sheet : Option String := none
  template : Option String := none
  layers : Bool := false
  validate : Bool := false
  width : Option Float32 := none
  height : Option Float32 := none
  logLevel : String := "warn"

def pathValue (value : List Char) : Option String :=
  if value.isEmpty then none else some (String.ofList value)

def realValue (value : List Char) : Option Float32 :=
  Decimal.single? value

def formatValue (value : List Char) : Option Export.Format :=
  Export.Format.all.find? (·.name.toList == value)

def Arguments.take (a : Arguments) : Given → Option Arguments
  | (.input, v) => (pathValue v).map fun p => { a with input := some p }
  | (.output, v) => (pathValue v).map fun p => { a with output := some p }
  | (.format, v) => (formatValue v).map fun f => { a with format := some f }
  | (.config, v) => (pathValue v).map fun p => { a with config := some p }
  | (.sheet, v) => (pathValue v).map fun p => { a with sheet := some p }
  | (.template, v) => some { a with template := some (String.ofList v) }
  | (.width, v) => (realValue v).map fun x => { a with width := some x }
  | (.height, v) => (realValue v).map fun x => { a with height := some x }
  | (.logLevel, v) => some { a with logLevel := String.ofList v }
  | (.layers, _) => some { a with layers := true }
  | (.validate, _) => some { a with validate := true }

def Arguments.conflicts (a : Arguments) : Bool :=
  (a.input.isSome && a.template.isSome) || (a.layers && a.validate)

def hasRepeated : List Given → Bool
  | [] => false
  | (flag, _) :: r => r.any (·.1 = flag) || hasRepeated r

/-- The arguments that a run was given, unless they are in disorder. -/
def Arguments.ofList? (args : List String) : Option Arguments := do
  let given ← givenFrom none (args.map String.toList)
  if hasRepeated given then none
  else
    let a ← given.foldlM Arguments.take {}
    if a.conflicts then none else some a

end Infochart.Command
