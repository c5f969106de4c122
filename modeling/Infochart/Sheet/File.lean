import Infochart.Text.Blank
import Infochart.Files.Path
import Infochart.Sheet.Csv
import Infochart.Sheet.Problem

/-!
# Sheet files

The extension of its name decides how a file is read. Only comma-separated texts are.
-/

namespace Infochart.Sheet

def Grid.ofText (s : String) : Except Problem Grid :=
  match Grid.ofCsv? s with
  | some g => .ok g
  | none => .error .noData

/-- The sheet in a file, where `read` gives the texts of files. -/
def Grid.ofFile (read : String → Except Files.Fault String) (path : String) : Except Problem Grid :=
  let extension := Text.asciiLower (Files.extension path)
  if extension = "csv" then
    match read path with
    | .ok s => Grid.ofText s
    | .error fault => .error (.unreadable fault)
  else if extension = "xlsx" ∨ extension = "xls" then .error .workbook
  else .error (.unsupported extension)

end Infochart.Sheet
