import Infochart.Files.Fault
import Infochart.Files.Path

/-!
# Directories

A directory is the list of the files in it and below it, each with the names that lead to it. A name
that leads to a file further down is a directory. Of what is outside only little is known: there are
directories all the way up to the root, the usual ones stand below the root, and what is written
outside is not seen again.
-/

namespace Infochart.Files

structure Directory where
  files : List (List (List Char) × ByteArray)

inductive Spot where
  /-- A place in the directory at hand, which is itself at the empty one. -/
  | inside (place : List (List Char))
  /-- A place in some directory further up. -/
  | above (place : List (List Char))
  /-- A place seen from the root. -/
  | rooted (place : List (List Char))
  deriving DecidableEq, Repr

namespace Spot

def child : Spot → List Char → Spot
  | .inside p, name => .inside (p ++ [name])
  | .above p, name => .above (p ++ [name])
  | .rooted p, name => .rooted (p ++ [name])

/-- The directory around a place. The root is around itself. -/
def parent : Spot → Spot
  | .inside [] => .above []
  | .inside p => .inside p.dropLast
  | .above p => .above p.dropLast
  | .rooted p => .rooted p.dropLast

end Spot

inductive Entry where
  | directory
  | file (bytes : ByteArray)

/-- The directories below the root that every system has. -/
def usualDirectories : List String :=
  ["bin", "dev", "etc", "home", "lib", "media", "mnt", "opt", "proc", "root", "run", "sbin", "srv",
   "sys", "tmp", "usr", "var"]

/-- The longest name, in bytes. -/
def maxNameSize : Nat := 255

/-- The longest path, in bytes. -/
def maxPathSize : Nat := 4095

namespace Directory

def file? (d : Directory) (place : List (List Char)) : Option ByteArray :=
  d.files.lookup place

/-- Whether there is a directory at a place; the directory itself is at the empty one. -/
def isDirectory (d : Directory) (place : List (List Char)) : Bool :=
  place.isEmpty || d.files.any fun (p, _) => place.length < p.length && place.isPrefixOf p

/-- What stands at a spot, if something does. The null device reads as empty. -/
def entry? (d : Directory) : Spot → Option Entry
  | .inside p => if d.isDirectory p then some .directory else (d.file? p).map .file
  | .above p => if p.isEmpty then some .directory else none
  | .rooted [] => some .directory
  | .rooted [name] => if usualDirectories.contains (String.ofList name) then some .directory else none
  | .rooted p => if p = ["dev".toList, "null".toList] then some (.file .empty) else none

/-- Follows names from a spot. All but the last have to lead to directories. -/
def follow (d : Directory) (spot : Spot) : List (List Char) → Except Fault Spot
  | [] => .ok spot
  | name :: r =>
    match d.entry? spot with
    | none => .error .missing
    | some (.file _) => .error .notDirectory
    | some .directory =>
      if name = ['.'] then d.follow spot r
      else if name = ['.', '.'] then d.follow spot.parent r
      else if maxNameSize < (String.ofList name).utf8ByteSize then .error .tooLong
      else d.follow (spot.child name) r

/-- The spot that a path leads to. Something need not stand there. -/
def spot (d : Directory) (path : String) : Except Fault Spot :=
  let p := path.toList
  if p.contains '\x00' then .error .nulInPath
  else if p.isEmpty then .error .missing
  else if maxPathSize < path.utf8ByteSize then .error .tooLong
  else d.follow (if isAbsolute p then .rooted [] else .inside []) (names p)

def read (d : Directory) (path : String) : Except Fault ByteArray := do
  match d.entry? (← d.spot path) with
  | none => .error .missing
  | some .directory => .error .directory
  | some (.file bytes) => if endsInSlash path.toList then .error .notDirectory else .ok bytes

/-- The place at which a path lets a file be written, if it is inside. -/
def target (d : Directory) (path : String) : Except Fault (Option (List (List Char))) := do
  let spot ← d.spot path
  match d.entry? spot with
  | some .directory => .error .directory
  | _ =>
    if endsInSlash path.toList then .error .directory
    else match spot with
      | .inside place => .ok (some place)
      | _ => .ok none

def readText (d : Directory) (path : String) : Except Fault String :=
  d.read path >>= decode

end Directory

end Infochart.Files
