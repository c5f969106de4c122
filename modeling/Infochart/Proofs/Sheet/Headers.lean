import Infochart.Proofs.Sheet.Merge

/-!
# What headers can reach

Two sheets with the same rows and as many headers are merged into the same description. The headers are
meant to show in the unit and in the names of the series only, and they do as long as the second header
is on one line. With a line feed in it, its further lines are read as lines of the description: they may
be malformed, and they may give a value to any identifier that no dataset is written under. The last
theorems say exactly when they do neither.
-/

namespace Infochart
namespace Sheet

open Property (Id Known Value Line entriesOf lookup readings lineOf reread)

/-! ## The last value of an identifier -/

/-- The value that lines leave behind for an identifier. -/
def lastValue (id : Id) (ks : List Line) : Option Value :=
  lookup id (entriesOf ks).reverse

theorem lastValue_append (id : Id) (ks ls : List Line) :
    lastValue id (ks ++ ls) = (lastValue id ls).or (lastValue id ks) := by
  unfold lastValue
  rw [Property.entriesOf_append, List.reverse_append, Property.lookup_append]

theorem lastValue_cons (id : Id) (l : Line) (ks : List Line) :
    lastValue id (l :: ks) = (lastValue id ks).or (lastValue id [l]) :=
  lastValue_append id [l] ks

theorem lastValue_singleton {id k : Id} {v : Value} {l : Line} (h : l.entry? = some (k, v)) :
    lastValue id [l] = if k = id then some v else none := by
  unfold lastValue
  rw [Property.entriesOf_singleton, h]
  rfl

theorem lastValue_cons_of_ne {id k : Id} {v : Value} {l : Line} {ks : List Line}
    (h : l.entry? = some (k, v)) (hk : k ≠ id) : lastValue id (l :: ks) = lastValue id ks := by
  rw [lastValue_cons, lastValue_singleton h, if_neg hk, Option.or_none]

theorem lastValue_eq_none_iff {id : Id} {ks : List Line} :
    lastValue id ks = none ↔ id ∉ (entriesOf ks).map Prod.fst :=
  Property.lookup_reverse_eq_none_iff

theorem get?_parse {s : List Char} (h : Text.allBlank s = false) (id : Id) :
    (Property.parse s).map.get? id = lastValue id (readings s) := by
  rw [Property.map_parse h, Property.Map.get?_insertAll, Property.Map.get?_empty, Option.or_none]
  rfl

namespace Grid

/-- The identifiers that the datasets of a sheet are written under. -/
def dataIds (g : Grid) : List Id :=
  (List.range g.dataColumns).map fun i => (Known.dataset (i + 1)).id

/-- The value of an identifier before the datasets are written: from the further lines of the second
    header, or else from the lines that are kept and the labels. -/
def valueBeforeData (g : Grid) (base : List Char) (id : Id) : Option Value :=
  lastValue id (keptReadings base ++ g.labelsReading :: g.stray)

theorem keys_dataReadings (g : Grid) : (entriesOf g.dataReadings).map Prod.fst = g.dataIds := by
  rw [entriesOf_dataReadings]
  exact List.map_map

/-- The lines of the headers leave nothing but the unit, the names of the series and what the stray
    lines leave. -/
theorem lastValue_headerReadings (g : Grid) {id : Id} (hunit : id ≠ Known.unit.id)
    (hseries : id ≠ Known.seriesLabels.id) : lastValue id g.headerReadings = lastValue id g.stray := by
  unfold headerReadings stray
  cases g.headers.drop 1 with
  | nil => rfl
  | cons unit r =>
    obtain ⟨v, hv⟩ := readings_unitLine unit.toList
    have hentry : Line.entry? (.entry Known.unit.id v) =
        some (Known.unit.id, Property.decodeValue v) := rfl
    simp only
    rw [lastValue_append, lastValue_singleton (entry_lineOf _ _), if_neg (Ne.symm hseries), hv,
      lastValue_cons_of_ne hentry (Ne.symm hunit), Option.none_or]

/-- **The value of an identifier that the headers do not write.** -/
theorem get?_merged (g : Grid) (base : List Char) {id : Id} (hunit : id ≠ Known.unit.id)
    (hseries : id ≠ Known.seriesLabels.id) :
    (Property.parse (keptLines base ++ g.dataLines)).map.get? id =
      (lastValue id g.dataReadings).or (g.valueBeforeData base id) := by
  have hblank : lastValue id [Line.blank] = none := rfl
  unfold valueBeforeData
  rw [get?_parse (g.allBlank_merged base), g.readings_merged base, lastValue_append,
    lastValue_cons id g.labelsReading (g.headerReadings ++ _), lastValue_append, lastValue_append,
    hblank, Option.none_or, g.lastValue_headerReadings hunit hseries, lastValue_append,
    lastValue_cons id g.labelsReading g.stray]
  simp only [Option.or_assoc]

theorem errorFree_headerReadings (g : Grid) :
    (∀ k ∈ g.headerReadings, k.error? = none) ↔ ∀ k ∈ g.stray, k.error? = none := by
  unfold headerReadings stray
  cases g.headers.drop 1 with
  | nil => exact Iff.rfl
  | cons unit r =>
    obtain ⟨v, hv⟩ := readings_unitLine unit.toList
    have hunit : Line.error? (.entry Known.unit.id v) = none := rfl
    simp only [hv, List.forall_mem_append, List.forall_mem_cons, List.not_mem_nil,
      false_imp_iff, implies_true, error_lineOf, hunit, true_and, and_true]

/-- **Only stray lines can be malformed.** -/
theorem problems_merged (g : Grid) (base : List Char) :
    (Property.parse (keptLines base ++ g.dataLines)).problems = [] ↔
      ∀ k ∈ g.stray, k.error? = none := by
  rw [Property.problems_parse (g.allBlank_merged base), Property.problemsFrom_eq_nil_iff,
    g.readings_merged base, List.forall_mem_append, List.forall_mem_cons, List.forall_mem_append,
    List.forall_mem_append, errorFree_headerReadings]
  constructor
  · exact fun h => h.2.2.1
  · intro h
    refine ⟨?_, error_lineOf _ _, h, ?_, ?_⟩
    · intro k hk
      obtain ⟨id, v, rfl, -⟩ := mem_keptReadings hk
      rfl
    · intro k hk
      obtain ⟨i, -, rfl⟩ := List.mem_map.1 hk
      exact error_lineOf _ _
    · intro k hk
      rw [List.mem_singleton.1 hk]
      rfl

/-! ## Two sheets that differ in their headers -/

section SameRows

variable {g h : Grid}

theorem columnCount_eq (hrows : g.rows = h.rows) (hlen : g.headers.length = h.headers.length) :
    g.columnCount = h.columnCount := by
  unfold columnCount
  rw [hrows, hlen]

theorem dataColumns_eq (hrows : g.rows = h.rows) (hlen : g.headers.length = h.headers.length) :
    g.dataColumns = h.dataColumns := by
  unfold dataColumns
  rw [columnCount_eq hrows hlen]

theorem amounts_eq (hrows : g.rows = h.rows) (column : Nat) : g.amounts column = h.amounts column := by
  unfold amounts rowCount cell
  rw [hrows]

theorem dataReadings_eq (hrows : g.rows = h.rows) (hlen : g.headers.length = h.headers.length) :
    g.dataReadings = h.dataReadings := by
  unfold dataReadings
  rw [dataColumns_eq hrows hlen]
  exact List.map_congr_left fun i _ => by rw [amounts_eq hrows]

end SameRows

/-- A sheet whose second header is on one line has no stray lines. -/
theorem stray_eq_nil {g : Grid} (h : ∀ unit ∈ g.headers[1]?, '\n' ∉ unit.toList) : g.stray = [] := by
  unfold stray
  cases hd : g.headers.drop 1 with
  | nil => rfl
  | cons unit r => exact strayOf_of_not_mem (h unit (headers_one hd))

/-- Two sheets with the same rows are merged into the same values behind the headers if the values are
    the same before the datasets are written. -/
theorem get?_merged_eq_iff {g h : Grid} (base : List Char) (hsame : g.rows = h.rows)
    (hlen : g.headers.length = h.headers.length) :
    (∀ id, id ≠ Known.unit.id → id ≠ Known.seriesLabels.id →
      (Property.parse (keptLines base ++ g.dataLines)).map.get? id =
        (Property.parse (keptLines base ++ h.dataLines)).map.get? id) ↔
      ∀ id, id ≠ Known.unit.id → id ≠ Known.seriesLabels.id → id ∉ g.dataIds →
        g.valueBeforeData base id = h.valueBeforeData base id := by
  have hdata := dataReadings_eq hsame hlen
  constructor
  · intro hagree id hunit hseries hid
    have hnone : lastValue id g.dataReadings = none := by
      rw [lastValue_eq_none_iff, keys_dataReadings]
      exact hid
    have heq := hagree id hunit hseries
    rwa [get?_merged g _ hunit hseries, get?_merged h _ hunit hseries, ← hdata, hnone,
      Option.none_or, Option.none_or] at heq
  · intro hagree id hunit hseries
    rw [get?_merged g _ hunit hseries, get?_merged h _ hunit hseries, ← hdata]
    by_cases hid : id ∈ g.dataIds
    · -- The dataset comes last, so what stood there before does not matter.
      have hsome : lastValue id g.dataReadings ≠ none := by
        rw [Ne, lastValue_eq_none_iff, keys_dataReadings, not_not]
        exact hid
      obtain ⟨v, hv⟩ := Option.ne_none_iff_exists'.1 hsome
      rw [hv, Option.some_or, Option.some_or]
    · rw [hagree id hunit hseries hid]

theorem headers_ne_nil {g h : Grid} (hheaders : g.headers ≠ [])
    (hlen : g.headers.length = h.headers.length) : h.headers ≠ [] := by
  intro hnil
  rw [hnil] at hlen
  exact hheaders (List.length_eq_zero_iff.1 hlen)

/-- Sheets whose second headers are on one line differ in the unit and in the names of the series at
    most. -/
theorem headers_stay_apart {base : String} {g h : Grid}
    (hbase : (Property.read base).map.hasValue Known.visualizationType.id = true)
    (hheaders : g.headers ≠ []) (hrows : g.rows ≠ []) (hsame : g.rows = h.rows)
    (hlen : g.headers.length = h.headers.length)
    (hg : ∀ unit ∈ g.headers[1]?, '\n' ∉ unit.toList)
    (hh : ∀ unit ∈ h.headers[1]?, '\n' ∉ unit.toList) :
    ∃ a b, g.mergeInto base = .ok a ∧ h.mergeInto base = .ok b ∧
      (Property.read a).problems = [] ∧ (Property.read b).problems = [] ∧
        ∀ id, id ≠ Known.unit.id → id ≠ Known.seriesLabels.id →
          (Property.read a).map.get? id = (Property.read b).map.get? id := by
  have hlabels : g.labelsReading = h.labelsReading := by
    unfold labelsReading labels
    rw [hsame]
  refine ⟨_, _, mergeInto_eq hbase hheaders hrows,
    mergeInto_eq hbase (headers_ne_nil hheaders hlen) (hsame ▸ hrows), ?_⟩
  rw [read_merged, read_merged, problems_merged, problems_merged, get?_merged_eq_iff _ hsame hlen,
    stray_eq_nil hg, stray_eq_nil hh]
  refine ⟨fun k hk => absurd hk List.not_mem_nil, fun k hk => absurd hk List.not_mem_nil, ?_⟩
  intro id _ _ _
  unfold valueBeforeData
  rw [stray_eq_nil hg, stray_eq_nil hh, hlabels]

/-- **When headers stay in their place.** Two sheets that differ in the texts of their headers only are
    merged into a description. Both results are read without a problem, and to the same values but for
    the unit and the names of the series, exactly if no stray line of either sheet is malformed and
    the stray lines leave every identifier that no dataset is written under with the same value. -/
theorem headers_stay_apart_iff {base : String} {g h : Grid}
    (hbase : (Property.read base).map.hasValue Known.visualizationType.id = true)
    (hheaders : g.headers ≠ []) (hrows : g.rows ≠ []) (hsame : g.rows = h.rows)
    (hlen : g.headers.length = h.headers.length) :
    ∃ a b, g.mergeInto base = .ok a ∧ h.mergeInto base = .ok b ∧
      (((Property.read a).problems = [] ∧ (Property.read b).problems = [] ∧
          ∀ id, id ≠ Known.unit.id → id ≠ Known.seriesLabels.id →
            (Property.read a).map.get? id = (Property.read b).map.get? id) ↔
        ((∀ k ∈ g.stray, k.error? = none) ∧ (∀ k ∈ h.stray, k.error? = none) ∧
          ∀ id, id ≠ Known.unit.id → id ≠ Known.seriesLabels.id → id ∉ g.dataIds →
            g.valueBeforeData base.toList id = h.valueBeforeData base.toList id)) := by
  refine ⟨_, _, mergeInto_eq hbase hheaders hrows,
    mergeInto_eq hbase (headers_ne_nil hheaders hlen) (hsame ▸ hrows), ?_⟩
  rw [read_merged, read_merged, problems_merged, problems_merged, get?_merged_eq_iff _ hsame hlen]

/-- Two bar charts whose second headers differ in every kind of character but a line feed. -/
theorem headers_stay_apart_of_bars :
    ∃ a b, (Grid.mk ["Month", "\"Sales\", EUR"] [["Jan", "10"]]).mergeInto "101,Bar Chart" = .ok a ∧
      (Grid.mk ["Month", "[\r]"] [["Jan", "10"]]).mergeInto "101,Bar Chart" = .ok b ∧
      (Property.read a).problems = [] ∧ (Property.read b).problems = [] ∧
        ∀ id, id ≠ Known.unit.id → id ≠ Known.seriesLabels.id →
          (Property.read a).map.get? id = (Property.read b).map.get? id := by
  obtain ⟨a, b, ha, hb, hiff⟩ := @headers_stay_apart_iff "101,Bar Chart"
    ⟨["Month", "\"Sales\", EUR"], [["Jan", "10"]]⟩ ⟨["Month", "[\r]"], [["Jan", "10"]]⟩
    (by decide) (by decide) (by decide) rfl rfl
  refine ⟨a, b, ha, hb, hiff.2 ⟨?_, ?_, ?_⟩⟩
  · intro k hk
    cases hk
  · intro k hk
    cases hk
  · intro id _ _ _
    rfl

/-- A header over two lines writes the layout of the chart: the same bars, standing in one description
    and lying in the other. -/
theorem not_headers_stay_apart :
    ¬ ∀ (base : String) (g h : Grid),
      (Property.read base).map.hasValue Known.visualizationType.id = true → g.headers ≠ [] →
      g.rows ≠ [] → g.rows = h.rows → g.headers.length = h.headers.length →
      ∃ a b, g.mergeInto base = .ok a ∧ h.mergeInto base = .ok b ∧
        (Property.read a).problems = [] ∧ (Property.read b).problems = [] ∧
          ∀ id, id ≠ Known.unit.id → id ≠ Known.seriesLabels.id →
            (Property.read a).map.get? id = (Property.read b).map.get? id := by
  intro hall
  obtain ⟨a, b, ha, hb, -, -, hagree⟩ := hall "101,Bar Chart" ⟨["Month", "Sales"], [["Jan", "10"]]⟩
    ⟨["Month", "Sales\n301,Horizontal"], [["Jan", "10"]]⟩ (by decide) (by decide) (by decide) rfl rfl
  rw [mergeInto_eq (by decide) (by decide) (by decide)] at ha hb
  rw [← Except.ok.inj ha, ← Except.ok.inj hb] at hagree
  have hlayout := congrArg Option.isSome (hagree Known.layout.id (by decide) (by decide))
  have hupright : (lastValue Known.layout.id (readings (keptLines "101,Bar Chart".toList ++
      (Grid.mk ["Month", "Sales"] [["Jan", "10"]]).dataLines))).isSome = false := by
    decide +kernel
  have hlying : (lastValue Known.layout.id (readings (keptLines "101,Bar Chart".toList ++
      (Grid.mk ["Month", "Sales\n301,Horizontal"] [["Jan", "10"]]).dataLines))).isSome = true := by
    decide +kernel
  rw [read_merged, read_merged, get?_parse (allBlank_merged _ _), get?_parse (allBlank_merged _ _),
    hupright, hlying] at hlayout
  cases hlayout

end Grid

end Sheet
end Infochart
