import Infochart.Files.Fault

/-!
# What can be wrong with a sheet
-/

namespace Infochart.Sheet

inductive Problem where
  /-- The description to merge into names no type of chart. -/
  | missingBase
  | missingHeaders
  | noData
  /-- There is no sheet at hand. -/
  | noUpload
  | unsupported (extension : String)
  /-- Workbooks are not read. -/
  | workbook
  | unreadable (fault : Files.Fault)
  deriving DecidableEq, Repr

def Problem.message : Problem → String
  | .missingBase =>
    "base properties required first: enter at least the visualization type (101) before "
      ++ "converting sheet data"
  | .missingHeaders => "the sheet needs a header row"
  | .noData => "the sheet has no data"
  | .noUpload => "no sheet has been uploaded"
  | .unsupported extension =>
    "unsupported file type '" ++ extension ++ "': upload a .csv, .xlsx or .xls file"
  | .workbook =>
    "Excel support is not available in this build (enable the \x60xlsx\x60 feature)"
  | .unreadable fault => "failed to read sheet: " ++ fault.message

end Infochart.Sheet
