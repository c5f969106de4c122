import Infochart.Proofs.Property.Format
import Infochart.Proofs.Property.Written
import Infochart.Sheet.Merge

/-!
# The lines of a merged description

A merged description is four runs of lines: the lines that are kept, the labels, the lines of the headers
and the datasets. All of them are property lines of the reader's own format, with one exception. The
unit is put between quotes as it stands, so a line feed in it ends its line early, and what stands
behind the line feed is read as lines of its own: `stray` lists them. `readings_merged` says what the
reader makes of the whole text, and everything known about a merged description is read off it.
-/

namespace Infochart
namespace Sheet

open Property (Id Known Scalar Value Line Parsed LineError readings entriesOf lineOf reread lookup
  readings_flatMap readings_append readings_of_not_mem newline_not_mem_lineOf
  newline_not_mem_arrayText)

/-! ## Lines that are kept -/

/-- What the reader makes of the lines that are kept. -/
def keptReadings (base : List Char) : List Line :=
  ((Text.lines base).filter isKept).map Line.read

/-- **A kept line is an entry with a kept identifier.** Both readers of a line trim it and cut it at its
    first comma. -/
theorem read_of_isKept {line : List Char} (h : isKept line = true) :
    ∃ id v, Line.read line = .entry id v ∧ isKeptId id = true := by
  unfold isKept at h
  cases hsplit : Text.splitFirst ',' (Text.trim line) with
  | none =>
    rw [hsplit] at h
    cases h
  | some p =>
    obtain ⟨token, value⟩ := p
    rw [hsplit] at h
    obtain ⟨hs, hc⟩ := Text.splitFirst_eq_some_iff.1 hsplit
    rw [Bool.and_eq_true] at h
    cases hid : Id.ofDigits? (Text.trim token) with
    | none =>
      rw [hid] at h
      exact absurd h.1 (by simp)
    | some id =>
      rw [hid] at h
      have hdigits := Property.Id.ofDigits?_eq_some_iff.1 hid
      exact ⟨id, Text.trim value, (Property.Reads.entry hs hc hdigits).read_eq, by simpa using h.1⟩

theorem newline_not_mem_of_mem_lines {s l : List Char} (h : l ∈ Text.lines s) : '\n' ∉ l :=
  Text.not_mem_of_mem_cut (Text.mem_cut_of_mem_lines h)

theorem newline_not_mem_trimEnd {l : List Char} (h : '\n' ∉ l) : '\n' ∉ Text.trimEnd l := by
  obtain ⟨t, -, hl⟩ := Text.trimEnd_append_trimmed l
  rw [hl] at h
  exact fun hm => h (List.mem_append_left t hm)

theorem keptLines_eq (base : List Char) :
    keptLines base =
      (((Text.lines base).filter isKept).map Text.trimEnd).flatMap (· ++ ['\n']) := by
  unfold keptLines
  rw [List.flatMap_map]

theorem newline_not_mem_kept {base l : List Char}
    (h : l ∈ ((Text.lines base).filter isKept).map Text.trimEnd) : '\n' ∉ l := by
  obtain ⟨k, hk, rfl⟩ := List.mem_map.1 h
  exact newline_not_mem_trimEnd (newline_not_mem_of_mem_lines (List.mem_of_mem_filter hk))

theorem readings_keptLines (base t : List Char) :
    readings (keptLines base ++ t) = keptReadings base ++ readings t := by
  rw [keptLines_eq, readings_flatMap (fun _ => newline_not_mem_kept), List.map_map]
  congr 1
  refine List.map_congr_left fun l _ => ?_
  exact Line.read_trimEnd l

/-- What a kept line leaves: an entry with a kept identifier, and no error. -/
theorem mem_keptReadings {base : List Char} {k : Line} (h : k ∈ keptReadings base) :
    ∃ id v, k = .entry id v ∧ isKeptId id = true := by
  obtain ⟨l, hl, rfl⟩ := List.mem_map.1 h
  exact read_of_isKept (List.mem_filter.1 hl).2

/-! ## Lines with lists -/

theorem listLine_eq (k : Known) (items : List Scalar) :
    listLine k items = lineOf k.id (.list items) ++ ['\n'] := rfl

theorem readings_listLine (k : Known) (items : List Scalar) (t : List Char) :
    readings (listLine k items ++ t) = Line.read (lineOf k.id (.list items)) :: readings t := by
  have hline : '\n' ∉ lineOf k.id (.list items) :=
    newline_not_mem_lineOf (newline_not_mem_arrayText items)
  have hshape : listLine k items ++ t = lineOf k.id (.list items) ++ '\n' :: t := by
    simp [listLine_eq]
  rw [hshape, readings_append, readings_of_not_mem hline]
  rfl

theorem entry_lineOf (id : Id) (v : Value) :
    Line.entry? (Line.read (lineOf id v)) = some (id, reread v) := by
  rw [Property.Line.read_lineOf]
  rfl

theorem error_lineOf (id : Id) (v : Value) : Line.error? (Line.read (lineOf id v)) = none := by
  rw [Property.Line.read_lineOf]
  rfl

/-! ## The unit -/

/-- The line of the unit without its end: the header stands between the quotes as it is. -/
def unitLine (unit : List Char) : List Char :=
  Known.unit.id.digits ++ ',' :: '"' :: unit ++ ['"']

/-- What the reader makes of a unit behind its first line feed, the closing quote included. -/
def strayOf (unit : List Char) : List Line :=
  match Text.splitFirst '\n' unit with
  | none => []
  | some (_, rest) => readings (rest ++ ['"'])

theorem strayOf_of_not_mem {unit : List Char} (h : '\n' ∉ unit) : strayOf unit = [] := by
  unfold strayOf
  rw [Text.splitFirst_eq_none_iff.2 h]

/-- A unit without a line feed is read as it is. -/
theorem readings_unitLine_of_not_mem {unit : List Char} (h : '\n' ∉ unit) :
    readings (unitLine unit) = [.entry Known.unit.id ('"' :: unit ++ ['"'])] := by
  have hdigits : '\n' ∉ Known.unit.id.digits := Property.Id.not_mem_digits (by decide)
  have hline : '\n' ∉ unitLine unit := by
    simp [unitLine, hdigits, h]
  have hshape : unitLine unit = Known.unit.id.digits ++ ',' :: ('"' :: unit ++ ['"']) := by
    simp [unitLine]
  rw [readings_of_not_mem hline, hshape, Property.Line.read_entry,
    Property.trim_enclosed (by decide) (by decide)]

/-- **A unit is read as an entry for the unit, and then as its stray lines.** -/
theorem readings_unitLine (unit : List Char) :
    ∃ v, readings (unitLine unit) = .entry Known.unit.id v :: strayOf unit := by
  -- A line feed ends the line early, and what stands behind it is read as the text that it is.
  by_cases h : '\n' ∈ unit
  · obtain ⟨u, rest, rfl, hu⟩ := List.eq_append_cons_of_mem h
    have hdigits : '\n' ∉ Known.unit.id.digits := Property.Id.not_mem_digits (by decide)
    have hfirst : '\n' ∉ Known.unit.id.digits ++ ',' :: ('"' :: u) := by
      simp [hdigits, hu]
    have hshape : unitLine (u ++ '\n' :: rest) =
        (Known.unit.id.digits ++ ',' :: ('"' :: u)) ++ '\n' :: (rest ++ ['"']) := by
      simp [unitLine]
    have hstray : strayOf (u ++ '\n' :: rest) = readings (rest ++ ['"']) := by
      unfold strayOf
      rw [Text.splitFirst_append hu]
    refine ⟨Text.trim ('"' :: u), ?_⟩
    rw [hshape, readings_append, readings_of_not_mem hfirst, Property.Line.read_entry, hstray]
    rfl
  · exact ⟨_, by rw [readings_unitLine_of_not_mem h, strayOf_of_not_mem h]⟩

namespace Grid

/-! ## The whole text -/

/-- The lines that the second header makes behind the line of the unit. -/
def stray (g : Grid) : List Line :=
  match g.headers.drop 1 with
  | [] => []
  | unit :: _ => strayOf unit.toList

theorem headers_one {g : Grid} {unit : String} {r : List String} (h : g.headers.drop 1 = unit :: r) :
    g.headers[1]? = some unit := by
  rw [← List.head?_drop, h]
  rfl

/-- What the reader makes of the lines for the headers. -/
def headerReadings (g : Grid) : List Line :=
  match g.headers.drop 1 with
  | [] => []
  | unit :: r =>
    readings (unitLine unit.toList)
      ++ [Line.read (lineOf Known.seriesLabels.id (.list ((unit :: r).map .text)))]

/-- What the reader makes of the lines for the datasets. -/
def dataReadings (g : Grid) : List Line :=
  (List.range g.dataColumns).map fun i =>
    Line.read (lineOf (Known.dataset (i + 1)).id (.list (g.amounts (i + 1))))

/-- The entries for the datasets. -/
def dataEntries (g : Grid) : List (Id × Value) :=
  (List.range g.dataColumns).map fun i =>
    ((Known.dataset (i + 1)).id, reread (.list (g.amounts (i + 1))))

theorem entriesOf_dataReadings (g : Grid) : entriesOf g.dataReadings = g.dataEntries := by
  unfold dataReadings dataEntries entriesOf
  induction List.range g.dataColumns with
  | nil => rfl
  | cons i r ih =>
    rw [List.map_cons, List.map_cons, List.filterMap_cons_some (entry_lineOf _ _), ih]

/-- What the reader makes of the line for the labels. -/
def labelsReading (g : Grid) : Line :=
  Line.read (lineOf Known.labels.id (.list g.labels))

theorem readings_headerLines (g : Grid) (t : List Char) :
    readings (g.headerLines ++ t) = g.headerReadings ++ readings t := by
  unfold headerLines headerReadings
  cases g.headers.drop 1 with
  | nil => rfl
  | cons unit r =>
    have hshape : Known.unit.id.digits ++ ',' :: '"' :: unit.toList ++ ['"', '\n']
        ++ listLine .seriesLabels ((unit :: r).map .text) ++ t =
        unitLine unit.toList ++ '\n' :: (listLine .seriesLabels ((unit :: r).map .text) ++ t) := by
      simp [unitLine]
    simp only
    rw [hshape, readings_append, readings_listLine]
    simp

theorem readings_datasets (g : Grid) (is : List Nat) (t : List Char) :
    readings ((is.flatMap fun i => listLine (.dataset (i + 1)) (g.amounts (i + 1))) ++ t) =
      (is.map fun i => Line.read (lineOf (Known.dataset (i + 1)).id (.list (g.amounts (i + 1)))))
        ++ readings t := by
  induction is with
  | nil => rfl
  | cons i r ih =>
    rw [List.flatMap_cons, List.append_assoc, readings_listLine, ih]
    rfl

/-- **What the reader makes of a merged description.** -/
theorem readings_merged (g : Grid) (base : List Char) :
    readings (keptLines base ++ g.dataLines) =
      keptReadings base ++ g.labelsReading :: (g.headerReadings ++ (g.dataReadings ++ [.blank])) := by
  have hdata : g.dataLines = listLine .labels g.labels ++ (g.headerLines
      ++ (((List.range g.dataColumns).flatMap fun i =>
        listLine (.dataset (i + 1)) (g.amounts (i + 1))) ++ [])) := by
    simp [dataLines]
  have hend : readings [] = [Line.blank] := rfl
  rw [readings_keptLines, hdata, readings_listLine, readings_headerLines, readings_datasets, hend]
  rfl

theorem allBlank_merged (g : Grid) (base : List Char) :
    Text.allBlank (keptLines base ++ g.dataLines) = false := by
  have hcomma : ',' ∈ g.dataLines := by
    simp [dataLines, listLine_eq, lineOf]
  rw [← Bool.not_eq_true, Text.allBlank_iff]
  exact fun h => absurd (h ',' (List.mem_append_right _ hcomma)) (by decide)

/-- **When a sheet can be merged.** -/
theorem mergeInto_eq {g : Grid} {base : String}
    (hbase : (Property.read base).map.hasValue Known.visualizationType.id = true)
    (hheaders : g.headers ≠ []) (hrows : g.rows ≠ []) :
    g.mergeInto base = .ok (String.ofList (keptLines base.toList ++ g.dataLines)) := by
  have h1 : g.headers.isEmpty = false := by simpa using hheaders
  have h2 : g.rows.isEmpty = false := by simpa using hrows
  unfold mergeInto
  rw [hbase, h1, h2]
  rfl

theorem read_merged (g : Grid) (base : String) :
    Property.read (String.ofList (keptLines base.toList ++ g.dataLines)) =
      Property.parse (keptLines base.toList ++ g.dataLines) := by
  unfold Property.read
  rw [String.toList_ofList]

end Grid

end Sheet
end Infochart
