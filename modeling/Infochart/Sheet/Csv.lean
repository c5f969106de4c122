import Infochart.Text.Blank
import Infochart.Text.Join
import Infochart.Sheet.Grid

/-!
# Sheets as comma-separated texts

Fields are separated by commas, and records by line ends of any kind. A field in quotes may hold
commas, line ends and, written twice, quotes. The writer puts quotes only where they are needed; the
reader passes over empty lines and takes every text.
-/

namespace Infochart.Sheet

/-! ## Writing -/

def needsQuotes (field : List Char) : Bool :=
  field.any fun c => c == ',' || c == '"' || c == '\r' || c == '\n'

/-- A character between quotes: quotes are written twice. -/
def doubled (c : Char) : List Char :=
  if c = '"' then ['"', '"'] else [c]

def fieldText (field : List Char) : List Char :=
  if needsQuotes field then '"' :: field.flatMap doubled ++ ['"'] else field

/-- A record with its line end. A record that would leave its line empty is written as empty
    quotes. -/
def recordText (record : List (List Char)) : List Char :=
  let line := Text.join ',' (record.map fieldText)
  (if line.isEmpty then ['"', '"'] else line) ++ ['\n']

/-- The records of a sheet, that of the headers first. -/
def Grid.records (g : Grid) : List (List (List Char)) :=
  (g.headers :: g.rows).map (·.map String.toList)

/-- A sheet as a text, with the headers first. -/
def Grid.csv (g : Grid) : String :=
  String.ofList (g.records.flatMap recordText)

/-! ## Reading -/

inductive Place where
  /-- Before a record. -/
  | outside
  /-- Before a field that belongs to a record. -/
  | before
  /-- In a field without quotes, or behind the quotes of one that had some. -/
  | plain
  /-- Between quotes. -/
  | quoted
  /-- Right behind a quote that may close the field or be the first of two. -/
  | closing
  deriving DecidableEq, Repr

/-- What has been read. The field at hand is kept backwards. -/
structure Reader where
  place : Place
  field : List Char
  record : List (List Char)
  records : List (List (List Char))
  deriving DecidableEq, Repr

namespace Reader

def start : Reader :=
  ⟨.outside, [], [], []⟩

def push (r : Reader) (place : Place) (c : Char) : Reader :=
  { r with place := place, field := c :: r.field }

/-- Ends the field at hand; another one follows. -/
def endField (r : Reader) : Reader :=
  { r with place := .before, field := [], record := r.record ++ [r.field.reverse] }

def endRecord (r : Reader) : Reader :=
  ⟨.outside, [], [], r.records ++ [r.record ++ [r.field.reverse]]⟩

/-- Takes a character outside quotes, where `place` follows if it is part of the field. -/
def takePlain (r : Reader) (c : Char) : Reader :=
  if c = ',' then r.endField
  else if c = '\n' ∨ c = '\r' then r.endRecord
  else r.push .plain c

def takeFirst (r : Reader) (c : Char) : Reader :=
  if c = '"' then { r with place := .quoted } else r.takePlain c

def take (r : Reader) (c : Char) : Reader :=
  match r.place with
  | .outside => if c = '\n' ∨ c = '\r' then r else r.takeFirst c
  | .before => r.takeFirst c
  | .plain => r.takePlain c
  | .quoted => if c = '"' then { r with place := .closing } else r.push .quoted c
  | .closing => if c = '"' then r.push .quoted c else r.takePlain c

/-- All records; the end of the text ends the record at hand. -/
def finish (r : Reader) : List (List (List Char)) :=
  if r.place = .outside then r.records else r.endRecord.records

end Reader

def dropMark : List Char → List Char
  | '\uFEFF' :: r => r
  | s => s

def readRecords (s : List Char) : List (List (List Char)) :=
  ((dropMark s).foldl Reader.take .start).finish

/-- Whether a record has a field that is not blank. -/
def hasContent (record : List (List Char)) : Bool :=
  record.any fun field => !Text.allBlank field

/-- The sheet of records, if there is one with content: the first such record holds the headers, and
    the others are its rows. -/
def Grid.ofRecords? (records : List (List (List Char))) : Option Grid :=
  match records.filter hasContent with
  | [] => none
  | first :: r => some ⟨first.map String.ofList, r.map (·.map String.ofList)⟩

def Grid.ofCsv? (s : String) : Option Grid :=
  Grid.ofRecords? (readRecords s.toList)

end Infochart.Sheet
