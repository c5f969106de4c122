import Infochart.Text.Search

/-!
# Paths

A path is read as the names between its slashes. Slashes that follow one another count as one, and so
do those at the end; a single dot stands for no step at all, except at the very front. On the way
to a file, though, a dot asks for the directory that it stands in.
-/

namespace Infochart.Files

/-- The names of a path, with dots among them. -/
def names (path : List Char) : List (List Char) :=
  (Text.splitOn ['/'] path).filter (· != [])

/-- The names of a path, without those that are no step. -/
def steps (path : List Char) : List (List Char) :=
  (names path).filter (· != ['.'])

def isAbsolute (path : List Char) : Bool :=
  path.head? == some '/'

/-- Whether a path ends with a slash, as only that of a directory may. -/
def endsInSlash (path : List Char) : Bool :=
  path.getLast? == some '/'

/-- Whether a path begins with a dot for the directory at hand. -/
def beginsHere : List Char → Bool
  | ['.'] => true
  | '.' :: '/' :: _ => true
  | _ => false

/-- The last name of a path, if it is one. -/
def name? (path : List Char) : Option (List Char) :=
  (steps path).getLast?.filter (· != ['.', '.'])

/-- The part of the last name behind its last dot. A name whose only dot comes first has none. -/
def extension? (path : List Char) : Option (List Char) :=
  match (name? path).bind (Text.splitLast '.') with
  | some (before, after) => if before.isEmpty then none else some after
  | none => none

/-- The extension of a path, empty if there is none. -/
def extension (path : String) : String :=
  String.ofList ((extension? path.toList).getD [])

/-- Whether a path stands for the standard streams: it is a single dash. -/
def isDash (path : String) : Bool :=
  let p := path.toList
  !isAbsolute p && !beginsHere p && steps p == [['-']]

end Infochart.Files
