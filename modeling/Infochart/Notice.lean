/-!
# Notices

What the library remarks on without refusing anything. Notices are part of the results, in the order
in which they arise; only the command line shows them.
-/

namespace Infochart

/-- A character of a text in quotes that shows what cannot be seen. -/
def visibleChar (c : Char) : List Char :=
  if c = '"' then ['\\', '"']
  else if c = '\\' then ['\\', '\\']
  else if c = '\n' then ['\\', 'n']
  else if c = '\r' then ['\\', 'r']
  else if c = '\t' then ['\\', 't']
  else if c.toNat = 0 then ['\\', '0']
  else if c.toNat < 0x20 ∨ c.toNat = 0x7F then
    ['\\', 'u', '\x7b'] ++ Nat.toDigits 16 c.toNat ++ ['\x7d']
  else [c]

/-- A text in quotes in which everything can be seen. -/
def visible (s : String) : String :=
  String.ofList ('"' :: s.toList.flatMap visibleChar ++ ['"'])

inductive Notice where
  /-- A value in brackets that is no array was kept as a text. -/
  | undecodedArray (line : Nat)
  | unknownScheme (key : String)
  | insufficientData (kind : String)
  | unsupportedType (shown : String)
  deriving DecidableEq, Repr

def Notice.message : Notice → String
  | .undecodedArray line =>
    "line " ++ toString line
      ++ ": value looks like a JSON array but does not decode; keeping raw text"
  | .unknownScheme key => "unknown color scheme " ++ visible key ++ ", using corporate"
  | .insufficientData kind => "insufficient data for " ++ kind ++ " chart"
  | .unsupportedType shown => "unsupported visualization type " ++ visible shown

end Infochart
