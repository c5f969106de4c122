import Infochart.Proofs.Json.Amount
import Infochart.Proofs.Sheet.Headers

/-!
# What a merged description says of its sheet

`Grid.Carries` is what one expects of a merged description: it is read without a problem, the lines
before the labels are lines of the description that it was made from, and behind them it has the sheet
and nothing else. A description whose second header is on one line carries its sheet exactly if no
amount is the largest finite number (`carries_merged_iff`): the data format refuses the digits of that number,
and with it the whole list that it stands in. All other amounts are read, and integers of at most 53
bits are read as themselves.
-/

namespace Infochart
namespace Sheet

open Property (Id Known Scalar Value Line entriesOf readings lineOf reread newline_not_mem_lineOf
  newline_not_mem_arrayText)

namespace Grid

/-- Whether items are the amounts of a column, as far as these are integers of at most 53 bits. -/
structure HasAmounts (g : Grid) (column : Nat) (items : List Scalar) : Prop where
  length : items.length = g.rowCount
  item : ∀ row a, items[row]? = some a → ∀ n : Int, n.natAbs ≤ 2 ^ 53 →
    (cellAmount (g.cell row column) == Float.ofInt n) = true →
      (Scalar.number (cellAmount (g.cell row column))).same a = true

/-- Whether the lines of one text, up to the labels, are lines of another one in their order, without the
    blanks at their ends. -/
def KeepsLines (base out : String) : Prop :=
  ∃ (kept : List (List Char)) (line : List Char) (after : List (List Char)),
    Text.lines out.toList = kept.map Text.trimEnd ++ line :: after ∧
    kept.Sublist (Text.lines base.toList) ∧
    (∀ l ∈ kept, ∀ v, Line.read (Text.trimEnd l) ≠ .entry Known.labels.id v) ∧
    ∃ v, Line.read line = .entry Known.labels.id v

/-- Whether a merged description carries a sheet. -/
structure Carries (g : Grid) (base out : String) : Prop where
  problems : (Property.read out).problems = []
  ids : (Property.read out).map.keys.filter (fun id => !isKeptId id) =
    Known.labels.id :: (if 2 ≤ g.headers.length then [Known.unit.id, Known.seriesLabels.id] else [])
      ++ (List.range (min 5 (g.columnCount - 1))).map fun i => (Known.dataset (i + 1)).id
  labels : (Property.read out).map.get? Known.labels.id =
    some (.list (g.rows.map fun cells => .text (cells.head?.getD "")))
  unit : ∀ header ∈ g.headers[1]?,
    (Property.read out).map.get? Known.unit.id = some (.text header)
  series : 2 ≤ g.headers.length →
    (Property.read out).map.get? Known.seriesLabels.id =
      some (.list ((g.headers.drop 1).map .text))
  datasets : ∀ i < min 5 (g.columnCount - 1), ∃ items,
    (Property.read out).map.get? (Known.dataset (i + 1)).id = some (.list items) ∧
      g.HasAmounts (i + 1) items
  lines : KeepsLines base out

/-! ## Entries -/

/-- The entries for the headers. -/
def headerEntries (g : Grid) : List (Id × Value) :=
  match g.headers.drop 1 with
  | [] => []
  | unit :: r =>
    [(Known.unit.id, .text unit), (Known.seriesLabels.id, .list ((unit :: r).map .text))]

/-- The entries for a sheet. -/
def entries (g : Grid) : List (Id × Value) :=
  (Known.labels.id, .list g.labels) :: (g.headerEntries ++ g.dataEntries)

theorem unit_mem_headerEntries {g : Grid} {header : String} (h : header ∈ g.headers[1]?) :
    (Known.unit.id, .text header) ∈ g.headerEntries := by
  unfold headerEntries
  match hh : g.headers with
  | [] =>
    rw [hh] at h
    cases h
  | [_] =>
    rw [hh] at h
    cases h
  | _ :: unit :: r =>
    rw [hh] at h
    cases h
    exact List.mem_cons_self

theorem series_mem_headerEntries {g : Grid} (h : 2 ≤ g.headers.length) :
    (Known.seriesLabels.id, .list ((g.headers.drop 1).map .text)) ∈ g.headerEntries := by
  unfold headerEntries
  match hh : g.headers with
  | [] =>
    rw [hh] at h
    cases h
  | [_] =>
    rw [hh] at h
    exact absurd h (by simp)
  | _ :: unit :: r => exact List.mem_cons_of_mem _ List.mem_cons_self

theorem reread_texts (ts : List String) :
    reread (.list (ts.map .text)) = .list (ts.map .text) := by
  refine Property.reread_list ?_
  rw [List.forall₂_map_left_iff, List.forall₂_map_right_iff, List.forall₂_same]
  exact fun t _ => Scalar.readsAs_text t

theorem reread_labels (g : Grid) : reread (.list g.labels) = .list g.labels := by
  have htexts : g.labels = (g.rows.map fun cells => cells.head?.getD "").map .text :=
    List.map_map.symm
  rw [htexts, reread_texts]

theorem entriesOf_headerReadings {g : Grid} (hg : ∀ unit ∈ g.headers[1]?, '\n' ∉ unit.toList) :
    entriesOf g.headerReadings = g.headerEntries := by
  unfold headerReadings headerEntries
  cases hd : g.headers.drop 1 with
  | nil => rfl
  | cons unit r =>
    have hunit : Line.entry? (.entry Known.unit.id ('"' :: unit.toList ++ ['"'])) =
        some (Known.unit.id, .text unit) := by
      show some (Known.unit.id, Property.decodeValue ('"' :: unit.toList ++ ['"'])) = _
      rw [Property.decodeValue_quoted, String.ofList_toList]
    simp only
    rw [readings_unitLine_of_not_mem (hg unit (headers_one hd)), Property.entriesOf_append,
      Property.entriesOf_singleton, Property.entriesOf_singleton, hunit, entry_lineOf, reread_texts]
    rfl

/-- **The entries of a merged description.** -/
theorem entries_merged {g : Grid} (hg : ∀ unit ∈ g.headers[1]?, '\n' ∉ unit.toList)
    (base : List Char) :
    entriesOf (readings (keptLines base ++ g.dataLines)) =
      entriesOf (keptReadings base) ++ g.entries := by
  have hblank : entriesOf [Line.blank] = [] := rfl
  have hlabels : entriesOf [g.labelsReading] = [(Known.labels.id, .list g.labels)] := by
    unfold labelsReading
    rw [Property.entriesOf_singleton, entry_lineOf, reread_labels]
    rfl
  rw [g.readings_merged, Property.entriesOf_append, ← List.singleton_append,
    Property.entriesOf_append, Property.entriesOf_append, Property.entriesOf_append, hblank, hlabels,
    entriesOf_headerReadings hg, entriesOf_dataReadings, List.append_nil]
  rfl

/-! ## Identifiers -/

/-- The identifiers that a sheet is written under. -/
def writtenIds (series : Bool) (columns : Nat) : List Id :=
  Known.labels.id :: (if series then [Known.unit.id, Known.seriesLabels.id] else [])
    ++ (List.range columns).map fun i => (Known.dataset (i + 1)).id

/-- They differ, and no line that is kept has one of them. -/
theorem writtenIds_spec : ∀ columns < 6, ∀ series, (writtenIds series columns).Nodup ∧
    ∀ id ∈ writtenIds series columns, isKeptId id = false := by
  decide

theorem map_fst_entries (g : Grid) :
    g.entries.map Prod.fst = writtenIds (decide (2 ≤ g.headers.length)) g.dataColumns := by
  have hdata : g.dataEntries.map Prod.fst = g.dataIds := List.map_map
  have hheaders : g.headerEntries.map Prod.fst =
      if decide (2 ≤ g.headers.length) then [Known.unit.id, Known.seriesLabels.id] else [] := by
    unfold headerEntries
    match g.headers with
    | [] => rfl
    | [_] => rfl
    | _ :: _ :: _ => simp
  unfold entries writtenIds
  rw [List.map_cons, List.map_append, hheaders, hdata]
  rfl

theorem isKeptId_of_mem_keptReadings {base : List Char} {id : Id}
    (h : id ∈ (entriesOf (keptReadings base)).map Prod.fst) : isKeptId id = true := by
  obtain ⟨e, he, rfl⟩ := List.mem_map.1 h
  obtain ⟨k, hk, hentry⟩ := List.mem_filterMap.1 he
  obtain ⟨id, v, rfl, hid⟩ := mem_keptReadings hk
  cases hentry
  exact hid

section Merged

variable {g : Grid} (hg : ∀ unit ∈ g.headers[1]?, '\n' ∉ unit.toList) (base : List Char)

theorem nodup_entries (g : Grid) : (g.entries.map Prod.fst).Nodup ∧
    ∀ id ∈ g.entries.map Prod.fst, isKeptId id = false := by
  have hcolumns : g.dataColumns < 6 := by
    unfold dataColumns maxDataColumns
    omega
  rw [map_fst_entries]
  exact writtenIds_spec _ hcolumns _

include hg

theorem keys_merged :
    (Property.parse (keptLines base ++ g.dataLines)).map.keys.filter (fun id => !isKeptId id) =
      writtenIds (decide (2 ≤ g.headers.length)) g.dataColumns := by
  obtain ⟨hn, hkept⟩ := nodup_entries g
  rw [Property.map_parse (g.allBlank_merged base), entries_merged hg,
    Property.Map.keys_insertAll_behind hn, List.filter_append, ← map_fst_entries]
  -- The keys of the kept lines come first, and the filter takes them out as a whole.
  · have hbefore : (((entriesOf (keptReadings base)).map Prod.fst).eraseDups.filter
        fun id => !isKeptId id) = [] := by
      rw [List.filter_eq_nil_iff]
      intro id hid
      rw [isKeptId_of_mem_keptReadings (List.mem_eraseDups.1 hid)]
      decide
    have hbehind : ((g.entries.map Prod.fst).filter fun id => !isKeptId id) =
        g.entries.map Prod.fst := by
      rw [List.filter_eq_self]
      intro id hid
      rw [hkept id hid]
      rfl
    rw [hbefore, hbehind, List.nil_append]
  · intro id hid hmem
    have hnot := hkept id hid
    rw [isKeptId_of_mem_keptReadings hmem] at hnot
    cases hnot

theorem get?_merged_of_mem {id : Id} {v : Value} (h : (id, v) ∈ g.entries) :
    (Property.parse (keptLines base ++ g.dataLines)).map.get? id = some v := by
  rw [Property.map_parse (g.allBlank_merged base), entries_merged hg,
    Property.Map.get?_insertAll_behind (nodup_entries g).1 h]

end Merged

/-! ## Datasets -/

/-- A number that is not the largest one is read back, and an integer of at most 53 bits as itself. -/
theorem exists_readsAs_number {x : Float} (hx : Decimal.isFinite x = true)
    (hsmall : Decimal.isLargest x = false) :
    ∃ b, (Scalar.number x).ReadsAs b ∧ ∀ n : Int, n.natAbs ≤ 2 ^ 53 →
      (x == Float.ofInt n) = true → (Scalar.number x).same b = true := by
  -- One integer at most is equal to `x`, so the clause on integers is settled by the one that is.
  by_cases hint : ∃ n : Int, n.natAbs ≤ 2 ^ 53 ∧ (x == Float.ofInt n) = true
  · obtain ⟨n, hn, heq⟩ := hint
    exact ⟨.number (Float.ofInt n), Scalar.readsAs_integer hn heq, fun _ _ _ => heq⟩
  · obtain ⟨l, hitem, hvalue⟩ := Json.exists_literal hx
    rw [hsmall, Bool.not_false, Option.isSome_iff_exists] at hvalue
    obtain ⟨v, hv⟩ := hvalue
    exact ⟨Scalar.ofData v, ⟨.number l, v, hitem, hv, rfl⟩,
      fun n hn heq => absurd ⟨n, hn, heq⟩ hint⟩

theorem isFinite_cellAmount (cell : String) : Decimal.isFinite (cellAmount cell) = true := by
  have hzero : Decimal.isFinite 0 = true := by decide +kernel
  unfold cellAmount
  split
  · split
    · unfold Property.finiteOrZero
      split
      · assumption
      · exact hzero
    · exact hzero
  · exact hzero

/-- Items that are found row by row. -/
theorem forall₂_amounts {β : Type} {R : Scalar → β → Prop} {g : Grid} {column : Nat} {f : Nat → β}
    (h : ∀ row < g.rowCount, R (.number (cellAmount (g.cell row column))) (f row)) :
    List.Forall₂ R (g.amounts column) ((List.range g.rowCount).map f) := by
  unfold amounts
  rw [List.forall₂_map_left_iff, List.forall₂_map_right_iff, List.forall₂_same]
  exact fun row hrow => h row (List.mem_range.1 hrow)

/-- **A column without the largest number is read back as its amounts.** -/
theorem exists_hasAmounts {g : Grid} {column : Nat}
    (h : ∀ row < g.rowCount, Decimal.isLargest (cellAmount (g.cell row column)) = false) :
    ∃ items, reread (.list (g.amounts column)) = .list items ∧ g.HasAmounts column items := by
  have hrows : ∀ row, ∃ b, row < g.rowCount →
      (Scalar.number (cellAmount (g.cell row column))).ReadsAs b ∧ ∀ n : Int, n.natAbs ≤ 2 ^ 53 →
        (cellAmount (g.cell row column) == Float.ofInt n) = true →
          (Scalar.number (cellAmount (g.cell row column))).same b = true := by
    intro row
    by_cases hrow : row < g.rowCount
    · obtain ⟨b, hb⟩ := exists_readsAs_number (isFinite_cellAmount _) (h row hrow)
      exact ⟨b, fun _ => hb⟩
    -- Below the last row any item will do.
    · exact ⟨.text "", fun hlt => absurd hlt hrow⟩
  choose f hf using hrows
  refine ⟨(List.range g.rowCount).map f,
    Property.reread_list (forall₂_amounts fun row hrow => (hf row hrow).1), ⟨by simp, ?_⟩⟩
  intro row a ha
  rw [List.getElem?_map, Option.map_eq_some_iff] at ha
  obtain ⟨i, hi, rfl⟩ := ha
  obtain ⟨hlt, rfl⟩ := List.getElem?_eq_some_iff.1 hi
  rw [List.length_range] at hlt
  rw [List.getElem_range]
  exact (hf row hlt).2

/-- **A column with the largest number is not read back as a list.** -/
theorem reread_amounts_of_isLargest {g : Grid} {column row : Nat} (hrow : row < g.rowCount)
    (h : Decimal.isLargest (cellAmount (g.cell row column)) = true) (items : List Scalar) :
    reread (.list (g.amounts column)) ≠ .list items := by
  have hliteral := fun i => Json.exists_literal (isFinite_cellAmount (g.cell i column))
  choose l hitem hvalue using hliteral
  have hforms : List.Forall₂ Json.IsItem ((g.amounts column).map Scalar.item)
      ((List.range g.rowCount).map fun i => .number (l i)) := by
    rw [List.forall₂_map_left_iff]
    exact forall₂_amounts fun i _ => hitem i
  -- One item without a value is enough for the array to be no value.
  have hnone : Json.itemValues? ((List.range g.rowCount).map fun i => .number (l i)) = none := by
    refine Property.itemValues?_eq_none ⟨.number (l row), ?_, ?_⟩
    · exact List.mem_map_of_mem (List.mem_range.2 hrow)
    · have hrefused := hvalue row
      rw [h, Bool.not_true, Option.isSome_eq_false_iff, Option.isNone_iff_eq_none] at hrefused
      exact hrefused
  rw [Property.reread_arrayText, Property.decodeArray?_eq hforms, hnone]
  simp

/-! ## Lines -/

theorem getLast?_trimEnd_ne_return (l : List Char) : (Text.trimEnd l).getLast? ≠ some '\r' := by
  intro hlast
  exact absurd (Text.isBlank_getLast?_trimEnd l '\r' hlast) (by decide)

theorem getLast?_lineOf_list (id : Id) (items : List Scalar) :
    (lineOf id (.list items)).getLast? = some ']' := by
  have hshape : lineOf id (.list items) =
      (id.digits ++ ',' :: '[' :: Text.join ',' (items.map Scalar.item)) ++ [']'] := by
    simp [lineOf, Value.lineText, Property.arrayText]
  rw [hshape, List.getLast?_concat]

/-- **The lines of the description come first, and the labels behind them.** -/
theorem keepsLines_merged (g : Grid) (base : String) :
    KeepsLines base (String.ofList (keptLines base.toList ++ g.dataLines)) := by
  have hlabels : '\n' ∉ lineOf Known.labels.id (.list g.labels) :=
    newline_not_mem_lineOf (newline_not_mem_arrayText g.labels)
  refine ⟨(Text.lines base.toList).filter isKept, lineOf Known.labels.id (.list g.labels),
    Text.lines (g.headerLines ++ (List.range g.dataColumns).flatMap fun i =>
      listLine (.dataset (i + 1)) (g.amounts (i + 1))), ?_, List.filter_sublist, ?_, ?_⟩
  · have hshape : keptLines base.toList ++ g.dataLines =
        (((Text.lines base.toList).filter isKept).map Text.trimEnd ++
          [lineOf Known.labels.id (.list g.labels)]).flatMap (· ++ ['\n']) ++
        (g.headerLines ++ (List.range g.dataColumns).flatMap fun i =>
          listLine (.dataset (i + 1)) (g.amounts (i + 1))) := by
      rw [keptLines_eq]
      simp [dataLines, listLine_eq]
    rw [String.toList_ofList, hshape, Text.lines_flatMap]
    · simp
    · intro l hl
      rcases List.mem_append.1 hl with hl | hl
      · obtain ⟨k, -, rfl⟩ := List.mem_map.1 hl
        exact ⟨newline_not_mem_kept hl, getLast?_trimEnd_ne_return k⟩
      · rw [List.mem_singleton.1 hl]
        refine ⟨hlabels, ?_⟩
        rw [getLast?_lineOf_list]
        decide
  · intro l hl v hread
    obtain ⟨id, w, heq, hid⟩ := read_of_isKept (List.mem_filter.1 hl).2
    rw [Property.Line.read_trimEnd, heq] at hread
    cases hread
    exact absurd hid (by decide)
  · exact ⟨_, Property.Line.read_lineOf _ _⟩

/-! ## The whole description -/

/-- **When a merged description carries its sheet.** -/
theorem carries_merged_iff {g : Grid} (hg : ∀ unit ∈ g.headers[1]?, '\n' ∉ unit.toList)
    (base : String) :
    g.Carries base (String.ofList (keptLines base.toList ++ g.dataLines)) ↔
      ∀ row < g.rowCount, ∀ i < min 5 (g.columnCount - 1),
        Decimal.isLargest (cellAmount (g.cell row (i + 1))) = false := by
  have hcolumns : g.dataColumns = min 5 (g.columnCount - 1) := Nat.min_comm _ _
  have hdata : ∀ i < min 5 (g.columnCount - 1),
      (Property.parse (keptLines base.toList ++ g.dataLines)).map.get? (Known.dataset (i + 1)).id =
        some (reread (.list (g.amounts (i + 1)))) := by
    intro i hi
    refine get?_merged_of_mem hg base.toList (List.mem_cons_of_mem _ (List.mem_append_right _ ?_))
    exact List.mem_map_of_mem (List.mem_range.2 (hcolumns ▸ hi))
  constructor
  · intro h row hrow i hi
    obtain ⟨items, hget, -⟩ := h.datasets i hi
    rw [read_merged, hdata i hi] at hget
    rw [← Bool.not_eq_true]
    exact fun hlargest => reread_amounts_of_isLargest hrow hlargest items (Option.some.inj hget)
  · intro h
    refine ⟨?_, ?_, ?_, ?_, ?_, ?_, keepsLines_merged g base⟩
    · rw [read_merged, problems_merged, stray_eq_nil hg]
      exact fun k hk => absurd hk List.not_mem_nil
    · rw [read_merged, keys_merged hg, ← hcolumns]
      unfold writtenIds
      simp only [decide_eq_true_eq]
    · rw [read_merged]
      exact get?_merged_of_mem hg base.toList List.mem_cons_self
    · intro header hheader
      rw [read_merged]
      refine get?_merged_of_mem hg base.toList
        (List.mem_cons_of_mem _ (List.mem_append_left _ ?_))
      exact unit_mem_headerEntries hheader
    · intro hlen
      rw [read_merged]
      refine get?_merged_of_mem hg base.toList
        (List.mem_cons_of_mem _ (List.mem_append_left _ ?_))
      exact series_mem_headerEntries hlen
    · intro i hi
      obtain ⟨items, hread, hamounts⟩ := exists_hasAmounts fun row hrow => h row hrow i hi
      rw [read_merged, hdata i hi, hread]
      exact ⟨items, rfl, hamounts⟩

/-- **When merging a sheet carries it over.** A sheet with headers and rows whose second header is on one
    line is merged into every description of a chart, and the result carries the sheet exactly if none
    of the cells that become data amounts to the largest finite number of either sign. -/
theorem merge_carries_iff {base : String} {g : Grid}
    (hbase : (Property.read base).map.hasValue Known.visualizationType.id = true)
    (hheaders : g.headers ≠ []) (hrows : g.rows ≠ [])
    (hunit : ∀ unit ∈ g.headers[1]?, '\n' ∉ unit.toList) :
    ∃ out, g.mergeInto base = .ok out ∧
      (g.Carries base out ↔ ∀ row < g.rowCount, ∀ i < min 5 (g.columnCount - 1),
        Decimal.isLargest (cellAmount (g.cell row (i + 1))) = false) :=
  ⟨_, mergeInto_eq hbase hheaders hrows, carries_merged_iff hunit base⟩

/-- A sheet with rows of different lengths, one of them empty, over a description with a malformed
    line. -/
theorem merge_carries_of_ragged :
    ∃ out, (Grid.mk ["Month", "\"Sales\", EUR"]
        [["Jan", "10", "-2.5%"], [], ["Feb"], ["Mar", "9007199254740992", "x", "7"]]).mergeInto
          "101,Bar Chart \r\nsales\n401,Sales" = .ok out ∧
      (Grid.mk ["Month", "\"Sales\", EUR"]
        [["Jan", "10", "-2.5%"], [], ["Feb"], ["Mar", "9007199254740992", "x", "7"]]).Carries
          "101,Bar Chart \r\nsales\n401,Sales" out := by
  obtain ⟨out, hout, hiff⟩ := @merge_carries_iff "101,Bar Chart \r\nsales\n401,Sales"
    ⟨["Month", "\"Sales\", EUR"],
      [["Jan", "10", "-2.5%"], [], ["Feb"], ["Mar", "9007199254740992", "x", "7"]]⟩
    (by decide) (by decide) (by decide) (by decide)
  exact ⟨out, hout, hiff.2 (by decide +kernel)⟩

/-- The largest number takes its whole column with it. -/
theorem not_merge_carries :
    ¬ ∀ (base : String) (g : Grid),
      (Property.read base).map.hasValue Known.visualizationType.id = true → g.headers ≠ [] →
      g.rows ≠ [] → (∀ unit ∈ g.headers[1]?, '\n' ∉ unit.toList) →
      ∃ out, g.mergeInto base = .ok out ∧ g.Carries base out := by
  intro hall
  obtain ⟨out, hout, hcarries⟩ := hall "101,Bar Chart"
    ⟨["Month", "Sales"], [["Jan", "1.7976931348623157e308"]]⟩
    (by decide) (by decide) (by decide) (by decide)
  rw [mergeInto_eq (by decide) (by decide) (by decide)] at hout
  have hone : (⟨["Month", "Sales"], [["Jan", "1.7976931348623157e308"]]⟩ : Grid).Carries
      "101,Bar Chart" (String.ofList (keptLines "101,Bar Chart".toList ++
        (⟨["Month", "Sales"], [["Jan", "1.7976931348623157e308"]]⟩ : Grid).dataLines)) :=
    (Except.ok.inj hout).symm ▸ hcarries
  have hsmall := (carries_merged_iff (by decide) "101,Bar Chart").1 hone 0 (by decide) 0 (by decide)
  have hlargest : Decimal.isLargest (cellAmount "1.7976931348623157e308") = true := by
    decide +kernel
  exact absurd (hlargest.symm.trans hsmall) (by decide)

end Grid

end Sheet
end Infochart
