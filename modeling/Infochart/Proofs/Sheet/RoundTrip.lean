import Infochart.Sheet.File

/-!
# Sheets read back from their texts

The reader takes one character after the other, so what is written piece by piece is read piece by piece:
a field, a record, a sheet. Each law says where the reader stands behind a piece, whatever it has read
before. Two things do not come back: a record without fields, which is written like one with an empty
field, and a mark at the very beginning, which is taken for a byte order mark. Records without content
come back as such and are dropped.
-/

namespace Infochart.Sheet

namespace Reader

variable {field : List Char} {record : List (List Char)} {records : List (List (List Char))}

/-! ## Fields -/

theorem take_comma {place : Place} (h : place ≠ .quoted) :
    take ⟨place, field, record, records⟩ ',' = ⟨.before, [], record ++ [field.reverse], records⟩ := by
  cases place with
  | quoted => exact absurd rfl h
  | _ => rfl

theorem take_newline {place : Place} (hquoted : place ≠ .quoted) (houtside : place ≠ .outside) :
    take ⟨place, field, record, records⟩ '\n' =
      ⟨.outside, [], [], records ++ [record ++ [field.reverse]]⟩ := by
  cases place with
  | quoted => exact absurd rfl hquoted
  | outside => exact absurd rfl houtside
  | _ => rfl

theorem foldl_plain {s : List Char} (hs : needsQuotes s = false) :
    s.foldl take ⟨.plain, field, record, records⟩ =
      ⟨.plain, s.reverse ++ field, record, records⟩ := by
  induction s generalizing field with
  | nil => rfl
  | cons c r ih =>
    simp only [needsQuotes, List.any_cons, Bool.or_eq_false_iff, beq_eq_false_iff_ne] at hs
    obtain ⟨⟨⟨⟨hcomma, -⟩, hreturn⟩, hfeed⟩, hr⟩ := hs
    have hstep : take ⟨.plain, field, record, records⟩ c = ⟨.plain, c :: field, record, records⟩ := by
      simp [take, takePlain, push, hcomma, hreturn, hfeed]
    rw [List.foldl_cons, hstep, ih hr, List.reverse_cons, List.append_assoc]
    rfl

theorem foldl_doubled (s : List Char) :
    (s.flatMap doubled).foldl take ⟨.quoted, field, record, records⟩ =
      ⟨.quoted, s.reverse ++ field, record, records⟩ := by
  induction s generalizing field with
  | nil => rfl
  | cons c r ih =>
    have hstep : (doubled c).foldl take ⟨.quoted, field, record, records⟩ =
        ⟨.quoted, c :: field, record, records⟩ := by
      by_cases hc : c = '"'
      · subst hc
        rfl
      · simp [doubled, take, push, hc]
    rw [List.flatMap_cons, List.foldl_append, hstep, ih, List.reverse_cons, List.append_assoc]
    rfl

variable (record records) in
/-- **A field is read back from its text.** The reader stands behind it where a comma or a line end will
    end it, unless nothing was written and no record has begun. -/
theorem foldl_fieldText {place : Place} (hplace : place = .outside ∨ place = .before)
    (f : List Char) :
    ∃ next, next ≠ .quoted ∧ (next = .outside → place = .outside ∧ fieldText f = []) ∧
      (fieldText f).foldl take ⟨place, [], record, records⟩ =
        ⟨next, f.reverse, record, records⟩ := by
  cases hquotes : needsQuotes f with
  | true =>
    have htext : fieldText f = '"' :: f.flatMap doubled ++ ['"'] := if_pos hquotes
    have hopen : take ⟨place, [], record, records⟩ '"' = ⟨.quoted, [], record, records⟩ := by
      rcases hplace with rfl | rfl <;> rfl
    refine ⟨.closing, by decide, by simp, ?_⟩
    rw [htext, List.cons_append, List.foldl_cons, hopen, List.foldl_append, foldl_doubled,
      List.append_nil]
    rfl
  | false =>
    have htext : fieldText f = f := by
      unfold fieldText
      rw [hquotes]
      rfl
    rw [htext]
    cases f with
    | nil =>
      refine ⟨place, ?_, fun h => ⟨h, rfl⟩, rfl⟩
      rcases hplace with rfl | rfl <;> decide
    | cons c r =>
      have hchars := hquotes
      simp only [needsQuotes, List.any_cons, Bool.or_eq_false_iff, beq_eq_false_iff_ne] at hchars
      obtain ⟨⟨⟨⟨hcomma, hquote⟩, hreturn⟩, hfeed⟩, hr⟩ := hchars
      have hstep : take ⟨place, [], record, records⟩ c = ⟨.plain, [c], record, records⟩ := by
        rcases hplace with rfl | rfl <;>
          simp [take, takeFirst, takePlain, push, hcomma, hquote, hreturn, hfeed]
      refine ⟨.plain, by decide, by simp, ?_⟩
      rw [List.foldl_cons, hstep, foldl_plain hr, List.reverse_cons]

/-! ## Records -/

/-- The fields of a record and its line end. -/
theorem foldl_fields {place : Place} (hplace : place = .outside ∨ place = .before) (f : List Char)
    (fs : List (List Char))
    (hline : place = .outside → Text.join ',' ((f :: fs).map fieldText) ≠ []) :
    (Text.join ',' ((f :: fs).map fieldText) ++ ['\n']).foldl take ⟨place, [], record, records⟩ =
      ⟨.outside, [], [], records ++ [record ++ f :: fs]⟩ := by
  obtain ⟨next, hquoted, houtside, hfield⟩ :=
    foldl_fieldText record records hplace f
  induction fs generalizing f place next record with
  | nil =>
    have hnext : next ≠ .outside := fun h => hline (houtside h).1 (houtside h).2
    have hjoin : Text.join ',' ([f].map fieldText) = fieldText f := rfl
    rw [hjoin, List.foldl_append, hfield, List.foldl_cons, take_newline hquoted hnext,
      List.reverse_reverse]
    rfl
  | cons g gs ih =>
    have hjoin : Text.join ',' ((f :: g :: gs).map fieldText) ++ ['\n'] =
        fieldText f ++ ',' :: (Text.join ',' ((g :: gs).map fieldText) ++ ['\n']) := by
      simp [Text.join]
    obtain ⟨next', hquoted', houtside', hfield'⟩ :=
      foldl_fieldText (record ++ [f]) records (.inr (Eq.refl Place.before)) g
    rw [hjoin, List.foldl_append, hfield, List.foldl_cons, take_comma hquoted, List.reverse_reverse,
      ih (.inr rfl) g (fun h => nomatch h) next' hquoted' houtside' hfield', List.append_assoc]
    rfl

end Reader

/-- A record with one field at least: no text stands for a record without fields. -/
def withField (record : List (List Char)) : List (List Char) :=
  if record.isEmpty then [[]] else record

/-- **A record is read back from its text.** -/
theorem foldl_recordText (record : List (List Char)) (records : List (List (List Char))) :
    (recordText record).foldl Reader.take ⟨.outside, [], [], records⟩ =
      ⟨.outside, [], [], records ++ [withField record]⟩ := by
  cases record with
  | nil => rfl
  | cons f fs =>
    by_cases hline : Text.join ',' ((f :: fs).map fieldText) = []
    · have htext : recordText (f :: fs) = ['"', '"', '\n'] := by
        unfold recordText
        rw [hline]
        rfl
      -- A line that holds nothing is the one of a single empty field.
      have hrecord : f :: fs = [[]] := by
        cases fs with
        | nil =>
          have hfield : fieldText f = [] := hline
          unfold fieldText at hfield
          split at hfield
          · cases hfield
          · rw [hfield]
        | cons g gs => simp [Text.join] at hline
      rw [htext, hrecord]
      rfl
    · have htext : recordText (f :: fs) =
          Text.join ',' ((f :: fs).map fieldText) ++ ['\n'] := by
        unfold recordText
        simp only [List.isEmpty_iff, if_neg hline]
      rw [htext, Reader.foldl_fields (.inl rfl) f fs fun _ => hline]
      rfl

theorem foldl_records (records done : List (List (List Char))) :
    (records.flatMap recordText).foldl Reader.take ⟨.outside, [], [], done⟩ =
      ⟨.outside, [], [], done ++ records.map withField⟩ := by
  induction records generalizing done with
  | nil => simp
  | cons record r ih =>
    rw [List.flatMap_cons, List.foldl_append, foldl_recordText, ih, List.append_assoc]
    rfl

theorem dropMark_of_head? {s : List Char} (h : s.head? ≠ some '\uFEFF') : dropMark s = s := by
  unfold dropMark
  split
  · exact absurd rfl h
  · rfl

/-- A record begins with a quote, a comma or its first field. -/
theorem head?_recordText {f : List Char} (h : f.head? ≠ some '\uFEFF') (fs : List (List Char)) :
    (recordText (f :: fs)).head? ≠ some '\uFEFF' := by
  have hquote : '"' ≠ '\uFEFF' := by decide
  have hcomma : ',' ≠ '\uFEFF' := by decide
  have hfield : (fieldText f).head? ≠ some '\uFEFF' := by
    unfold fieldText
    split
    · exact fun hc => hquote (Option.some.inj hc)
    · exact h
  unfold recordText
  cases hf : fieldText f with
  | nil => cases fs <;> simp [Text.join, hf, hquote, hcomma]
  | cons c r =>
    rw [hf] at hfield
    cases fs <;> simpa [Text.join, hf] using hfield

/-- **Records are read back from their texts**, unless the first one begins with a mark. -/
theorem readRecords_flatMap {f : List Char} (h : f.head? ≠ some '\uFEFF') (fs : List (List Char))
    (r : List (List (List Char))) :
    readRecords (((f :: fs) :: r).flatMap recordText) = ((f :: fs) :: r).map withField := by
  have hhead : (((f :: fs) :: r).flatMap recordText).head? ≠ some '\uFEFF' := by
    have hfirst := head?_recordText h fs
    rw [List.flatMap_cons, List.head?_append]
    cases hc : (recordText (f :: fs)).head? with
    | none => simp [recordText] at hc
    | some c =>
      rw [hc] at hfirst
      exact hfirst
  unfold readRecords
  rw [dropMark_of_head? hhead]
  exact congrArg Reader.finish (foldl_records _ [])

/-! ## Sheets -/

/-- Whether a row has a cell that is not blank. -/
def hasCell (row : List String) : Bool :=
  row.any fun cell => !Text.allBlank cell.toList

/-- Whether the first header begins with the character that byte order marks are made of. -/
def Grid.startsWithMark (g : Grid) : Bool :=
  g.headers.head?.bind (·.toList.head?) == some '\uFEFF'

theorem hasContent_toList (row : List String) : hasContent (row.map String.toList) = hasCell row := by
  unfold hasContent hasCell
  rw [List.any_map]
  rfl

theorem hasContent_withField (record : List (List Char)) :
    hasContent (withField record) = hasContent record := by
  cases record <;> rfl

theorem withField_of_hasContent {record : List (List Char)} (h : hasContent record = true) :
    withField record = record := by
  cases record with
  | nil => cases h
  | cons f fs => rfl

theorem filter_withField (records : List (List (List Char))) :
    (records.map withField).filter hasContent = records.filter hasContent := by
  rw [List.filter_map, show hasContent ∘ withField = hasContent from funext hasContent_withField]
  exact (List.map_congr_left fun r hr => withField_of_hasContent (List.mem_filter.1 hr).2).trans
    (List.map_id _)

theorem filter_toList (rows : List (List String)) :
    (rows.map (·.map String.toList)).filter hasContent =
      (rows.filter hasCell).map (·.map String.toList) := by
  rw [List.filter_map]
  exact congrArg _ (List.filter_congr fun row _ => hasContent_toList row)

theorem ofList_toList (row : List String) : (row.map String.toList).map String.ofList = row := by
  simp [Function.comp_def]

theorem rows_ofList_toList (rows : List (List String)) :
    (rows.map (·.map String.toList)).map (·.map String.ofList) = rows := by
  rw [List.map_map]
  exact (List.map_congr_left fun row _ => ofList_toList row).trans (List.map_id rows)

/-- The rows of a sheet that is read have cells that are not blank, and so have its headers. -/
theorem hasCell_of_ofText {s : String} {g : Grid} (h : Grid.ofText s = .ok g) :
    hasCell g.headers = true ∧ ∀ row ∈ g.rows, hasCell row = true := by
  have hcells (record : List (List Char)) (hr : hasContent record = true) :
      hasCell (record.map String.ofList) = true := by
    rw [← hasContent_toList, List.map_map]
    simpa [Function.comp_def] using hr
  unfold Grid.ofText Grid.ofCsv? Grid.ofRecords? at h
  cases hrecords : (readRecords s.toList).filter hasContent with
  | nil =>
    rw [hrecords] at h
    cases h
  | cons first r =>
    have hall : ∀ record ∈ first :: r, hasContent record = true := fun record hr =>
      (List.mem_filter.1 (hrecords ▸ hr)).2
    rw [hrecords] at h
    cases h
    refine ⟨hcells first (hall first List.mem_cons_self), fun row hrow => ?_⟩
    obtain ⟨record, hr, rfl⟩ := List.mem_map.1 hrow
    exact hcells record (hall record (List.mem_cons_of_mem first hr))

theorem ofText_csv {g : Grid} (hheaders : hasCell g.headers = true)
    (hmark : g.startsWithMark = false) :
    Grid.ofText g.csv = .ok { g with rows := g.rows.filter hasCell } := by
  obtain ⟨headers, rows⟩ := g
  cases headers with
  | nil => cases hheaders
  | cons h hs =>
    have hfirst : h.toList.head? ≠ some '\uFEFF' := by simpa [Grid.startsWithMark] using hmark
    have hread : readRecords (Grid.csv ⟨h :: hs, rows⟩).toList =
        (Grid.records ⟨h :: hs, rows⟩).map withField := by
      unfold Grid.csv
      rw [String.toList_ofList]
      exact readRecords_flatMap hfirst _ _
    have hkept : (Grid.records ⟨h :: hs, rows⟩).filter hasContent =
        (h :: hs).map String.toList :: (rows.filter hasCell).map (·.map String.toList) := by
      unfold Grid.records
      rw [filter_toList, List.filter_cons_of_pos hheaders, List.map_cons]
    unfold Grid.ofText Grid.ofCsv? Grid.ofRecords?
    rw [hread, filter_withField, hkept]
    simp only [ofList_toList, rows_ofList_toList]

/-- **A sheet is read back from its text.** If its headers are not all blank and the first one does not
    begin with a mark, the text is read as a sheet with the same headers and with the rows that have a
    cell that is not blank, whatever the cells hold. A sheet that was itself read from a text has no other
    rows, so it comes back as it is. -/
theorem csv_reads_back :
    (∀ g : Grid, hasCell g.headers = true → g.startsWithMark = false →
      Grid.ofText g.csv = .ok { g with rows := g.rows.filter hasCell }) ∧
    ∀ (s : String) (g : Grid), Grid.ofText s = .ok g → g.startsWithMark = false →
      Grid.ofText g.csv = .ok g := by
  refine ⟨fun g => ofText_csv, fun s g hread hmark => ?_⟩
  obtain ⟨hheaders, hrows⟩ := hasCell_of_ofText hread
  rw [ofText_csv hheaders hmark, List.filter_eq_self.2 hrows]

/-- Headers and cells with all that a field may hold, among rows without content; and a text in which a
    mark, line ends of three kinds and a field with characters behind its quotes are read. -/
theorem csv_reads_back_of_ragged :
    let g : Grid :=
      ⟨["", " M,\"S\"", "\uFEFF"],
        [[], [""], ["a\r\nb", " 1 "], ["\u3000", "\t"], ["\"", "\n", ","]]⟩
    let read : Grid := ⟨["Month", "Sales"], [["1,2x", "\"", ""], ["\uFEFF"]]⟩
    Grid.ofText g.csv = .ok { g with rows := [["a\r\nb", " 1 "], ["\"", "\n", ","]] } ∧
      Grid.ofText "\uFEFFMonth,Sales\r\n , \r\"1,2\"x,\"\"\"\",\n\n\uFEFF" = .ok read ∧
      Grid.ofText read.csv = .ok read := by
  have hread : Grid.ofText "\uFEFFMonth,Sales\r\n , \r\"1,2\"x,\"\"\"\",\n\n\uFEFF" =
      .ok ⟨["Month", "Sales"], [["1,2x", "\"", ""], ["\uFEFF"]]⟩ := by
    rfl
  exact ⟨csv_reads_back.1 _ (by decide) (by decide), hread, csv_reads_back.2 _ _ hread (by decide)⟩

end Infochart.Sheet
