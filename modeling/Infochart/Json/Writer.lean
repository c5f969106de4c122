import Infochart.Decimal.Text
import Infochart.Json.Value

/-!
# Writing data

The two texts of a value: `compact` on one line without blanks, `pretty` with one item a line and two
blanks for each level. Objects are written in the order of their members.
-/

namespace Infochart.Json

def hexChar (n : Nat) : Char :=
  Char.ofNat (if n < 10 then 48 + n else 87 + n)

/-- A character inside quotes. Only quotes, backslashes and control characters are escaped. -/
def escapeChar (c : Char) : List Char :=
  if c = '"' then ['\\', '"']
  else if c = '\\' then ['\\', '\\']
  else if c = '\x08' then ['\\', 'b']
  else if c = '\x0c' then ['\\', 'f']
  else if c = '\n' then ['\\', 'n']
  else if c = '\r' then ['\\', 'r']
  else if c = '\t' then ['\\', 't']
  else if c.toNat < 0x20 then
    ['\\', 'u', '0', '0', hexChar (c.toNat / 16), hexChar (c.toNat % 16)]
  else [c]

def quote (s : List Char) : List Char :=
  '"' :: s.flatMap escapeChar ++ ['"']

/-- A text in quotes, as a string. -/
def quoted (s : String) : String :=
  String.ofList (quote s.toList)

/-- The text of a number that may be infinite or undefined. -/
def realText (x : Float) : String :=
  (Decimal.exponential? x).getD "null"

def atomText : Value → String
  | .bool b => if b then "true" else "false"
  | .integer n => toString n
  | .real x => realText x
  | .text s => quoted s
  | _ => "null"

mutual

def Value.compact : Value → String
  | .array items => "[" ++ ",".intercalate (compactItems items) ++ "]"
  | .object members => "\x7b" ++ ",".intercalate (compactMembers members) ++ "\x7d"
  | v => atomText v

def compactItems : List Value → List String
  | [] => []
  | v :: r => v.compact :: compactItems r

def compactMembers : List (String × Value) → List String
  | [] => []
  | (k, v) :: r => (quoted k ++ ":" ++ v.compact) :: compactMembers r

end

def indent (level : Nat) : String :=
  String.ofList (List.replicate (2 * level) ' ')

/-- Parts on lines of their own, between brackets; without parts the brackets stand together. -/
def block (level : Nat) (opening closing : String) (parts : List String) : String :=
  if parts.isEmpty then opening ++ closing
  else
    opening ++ "\n" ++ ",\n".intercalate (parts.map (indent (level + 1) ++ ·)) ++ "\n"
      ++ indent level ++ closing

mutual

/-- The text of a value, where the line that it begins on has the given level. -/
def Value.prettyAt (level : Nat) : Value → String
  | .array items => block level "[" "]" (prettyItems (level + 1) items)
  | .object members => block level "\x7b" "\x7d" (prettyMembers (level + 1) members)
  | v => atomText v

def prettyItems (level : Nat) : List Value → List String
  | [] => []
  | v :: r => v.prettyAt level :: prettyItems level r

def prettyMembers (level : Nat) : List (String × Value) → List String
  | [] => []
  | (k, v) :: r => (quoted k ++ ": " ++ v.prettyAt level) :: prettyMembers level r

end

def Value.pretty (v : Value) : String :=
  v.prettyAt 0

end Infochart.Json
