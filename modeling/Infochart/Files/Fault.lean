/-!
# Files

What can be wrong with a file, and the texts of files: a file holds bytes, and it holds a text if they
are its encoding.
-/

namespace Infochart.Files

inductive Fault where
  | missing
  /-- There is a directory in its place. -/
  | directory
  /-- Something on the way to it is a file. -/
  | notDirectory
  /-- A name on the way to it, or the whole path, is longer than names and paths can be. -/
  | tooLong
  /-- Its path has a NUL character, which no path can have. -/
  | nulInPath
  /-- Its bytes encode no text. -/
  | notText
  | other (message : String)
  deriving DecidableEq, Repr

def Fault.message : Fault → String
  | .missing => "No such file or directory (os error 2)"
  | .directory => "Is a directory (os error 21)"
  | .notDirectory => "Not a directory (os error 20)"
  | .tooLong => "File name too long (os error 36)"
  | .nulInPath => "file name contained an unexpected NUL byte"
  | .notText => "stream did not contain valid UTF-8"
  | .other message => message

def decode (bytes : ByteArray) : Except Fault String :=
  match String.fromUTF8? bytes with
  | some s => .ok s
  | none => .error .notText

end Infochart.Files
