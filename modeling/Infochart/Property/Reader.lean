import Infochart.Text.Blank
import Infochart.Text.Lines
import Infochart.Text.Search
import Infochart.Json.Reader
import Infochart.Notice
import Infochart.Property.Map

/-!
# Reading property lines

A line holds an identifier, a comma and a value. Each line is read on its own: it is blank, or it gives
an identifier a value, or it is malformed. Malformed lines are reported and left out, and the others
go into the map one after the other.
-/

namespace Infochart.Property

inductive LineError where
  | missingComma
  | badId (token : String)
  deriving DecidableEq, Repr

inductive Problem where
  /-- There is nothing but blanks. -/
  | noInput
  | line (number : Nat) (error : LineError)
  deriving DecidableEq, Repr

def Problem.message : Problem → String
  | .noInput => "CSV input is empty"
  | .line n .missingComma => "line " ++ toString n ++ ": missing comma separator"
  | .line n (.badId token) =>
    "line " ++ toString n ++ ": invalid ID '" ++ token ++ "' (ID must be exactly 3 digits)"

/-- The scalar that an item of an array becomes. Truth values and the missing value count as numbers,
    and what has parts of its own stays as its text. -/
def Scalar.ofData : Json.Value → Scalar
  | .integer n => .number (if n < 0 then -(Float.ofNat n.natAbs) else Float.ofNat n.natAbs)
  | .real x => .number x
  | .text s => .text s
  | .null => .number 0
  | .bool b => .number (if b then 1 else 0)
  | v => .text v.sorted.compact

def decodeArray? (s : List Char) : Option (List Scalar) :=
  match Json.Value.ofText? s with
  | some (.array items) => some (items.map Scalar.ofData)
  | _ => none

/-- The value behind a comma, without blanks around it. Brackets are looked at before quotes, and of
    quotes one pair is taken off. -/
def decodeValue (s : List Char) : Value :=
  if s.head? == some '[' && s.getLast? == some ']' then
    match decodeArray? s with
    | some items => .list items
    | none => .text (String.ofList s)
  else if s.head? == some '"' && s.getLast? == some '"' then
    .text (String.ofList (s.drop 1).dropLast)
  else .text (String.ofList s)

/-- Whether a value is in brackets and is no array. -/
def isUndecoded (s : List Char) : Bool :=
  s.head? == some '[' && s.getLast? == some ']' && (decodeArray? s).isNone

inductive Line where
  | blank
  | entry (id : Id) (value : List Char)
  | malformed (error : LineError)
  deriving Repr

def Line.read (s : List Char) : Line :=
  let s := Text.trim s
  if s.isEmpty then .blank
  else match Text.splitFirst ',' s with
    | none => .malformed .missingComma
    | some (token, value) =>
      let token := Text.trim token
      match Id.ofDigits? token with
      | none => .malformed (.badId (String.ofList token))
      | some id => .entry id (Text.trim value)

structure Parsed where
  map : Map
  problems : List Problem
  notices : List Notice

def Parsed.isValid (p : Parsed) : Bool :=
  p.problems.isEmpty

def Parsed.step (p : Parsed) (number : Nat) (s : List Char) : Parsed :=
  match Line.read s with
  | .blank => p
  | .malformed e => { p with problems := p.problems ++ [.line number e] }
  | .entry id value =>
    { p with
      map := p.map.insert id (decodeValue value)
      notices := if isUndecoded value then p.notices ++ [.undecodedArray number] else p.notices }

/-- Takes lines into what has been read before, the first of them with the given number. -/
def Parsed.steps (p : Parsed) (number : Nat) : List (List Char) → Parsed
  | [] => p
  | l :: r => (p.step number l).steps (number + 1) r

def parse (s : List Char) : Parsed :=
  if Text.allBlank s then ⟨.empty, [.noInput], []⟩
  else Parsed.steps ⟨.empty, [], []⟩ 1 (Text.cut s)

def read (s : String) : Parsed :=
  parse s.toList

end Infochart.Property
