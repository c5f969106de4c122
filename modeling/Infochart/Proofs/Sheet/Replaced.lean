import Infochart.Proofs.Sheet.Kept
import Infochart.Session
import Mathlib.Logic.Function.Iterate

/-!
# A later sheet takes the place of an earlier one

Merging a sheet into a description leaves the kept lines as the merge would write them anew: a line that
has been trimmed once is not trimmed again, and no line for a sheet has a kept identifier
(`keptLines_merged`). The type of the chart comes from a kept line, so it stays as well. A merge looks at
nothing else in a description, and a second merge therefore gives what it would have given without the
first one.
-/

namespace Infochart
namespace Sheet

open Property (Id Known Value Line readings lineOf reread)

namespace Grid

/-! ## Lines for a sheet -/

theorem keeps_lineOf (id : Id) (v : Value) (h : isKeptId id = false) :
    keeps (Line.read (lineOf id v)) = false := by
  rw [Property.Line.read_lineOf]
  show (isKeptId id && _) = false
  rw [h, Bool.false_and]

theorem isKeptId_dataset {g : Grid} {i : Nat} (hi : i < g.dataColumns) :
    isKeptId (Known.dataset (i + 1)).id = false := by
  have hmem : ((Known.dataset (i + 1)).id, reread (.list (g.amounts (i + 1)))) ∈ g.entries := by
    refine List.mem_cons_of_mem _ (List.mem_append_right _ ?_)
    exact List.mem_map_of_mem (List.mem_range.2 hi)
  exact (g.nodup_entries).2 _ (List.mem_map_of_mem hmem)

section OneLine

variable {g : Grid} (hg : ∀ unit ∈ g.headers[1]?, '\n' ∉ unit.toList)
include hg

theorem keeps_headerReadings : ∀ k ∈ g.headerReadings, keeps k = false := by
  unfold headerReadings
  cases hd : g.headers.drop 1 with
  | nil => exact fun k hk => absurd hk List.not_mem_nil
  | cons unit r =>
    intro k hk
    simp only at hk
    rw [readings_unitLine_of_not_mem (hg unit (headers_one hd)), List.singleton_append,
      List.mem_cons, List.mem_singleton] at hk
    rcases hk with rfl | rfl
    · rfl
    · exact keeps_lineOf _ _ (by decide)

/-- **No line for a sheet is kept.** -/
theorem keeps_dataLines : ∀ k ∈ readings g.dataLines, keeps k = false := by
  have hread : readings g.dataLines =
      g.labelsReading :: (g.headerReadings ++ (g.dataReadings ++ [.blank])) :=
    g.readings_merged []
  intro k hk
  rw [hread, List.mem_cons, List.mem_append, List.mem_append, List.mem_singleton] at hk
  rcases hk with rfl | hk | hk | rfl
  · exact keeps_lineOf _ _ (by decide)
  · exact keeps_headerReadings hg k hk
  · obtain ⟨i, hi, rfl⟩ := List.mem_map.1 hk
    exact keeps_lineOf _ _ (isKeptId_dataset (List.mem_range.1 hi))
  · rfl

theorem filter_isKept_dataLines : (Text.lines g.dataLines).filter isKept = [] := by
  rw [List.filter_eq_nil_iff]
  intro l hl
  rw [isKept_eq, keeps_dataLines hg _ (List.mem_map_of_mem (Text.mem_cut_of_mem_lines hl))]
  exact Bool.false_ne_true

/-! ## Merging twice -/

/-- **The kept lines of a merged description are those that it was made from.** -/
theorem keptLines_merged (base : List Char) :
    keptLines (keptLines base ++ g.dataLines) = keptLines base := by
  have hends : ∀ l ∈ ((Text.lines base).filter isKept).map Text.trimEnd,
      '\n' ∉ l ∧ l.getLast? ≠ some '\r' := by
    intro l hl
    obtain ⟨k, -, rfl⟩ := List.mem_map.1 hl
    exact ⟨newline_not_mem_kept hl, getLast?_trimEnd_ne_return k⟩
  have hlines : Text.lines (keptLines base ++ g.dataLines) =
      ((Text.lines base).filter isKept).map Text.trimEnd ++ Text.lines g.dataLines := by
    rw [keptLines_eq, Text.lines_flatMap hends]
  -- Trimmed lines are kept like the lines that they come from.
  have hkept : (((Text.lines base).filter isKept).map Text.trimEnd).filter isKept =
      ((Text.lines base).filter isKept).map Text.trimEnd := by
    rw [List.filter_eq_self]
    intro l hl
    obtain ⟨k, hk, rfl⟩ := List.mem_map.1 hl
    rw [isKept_trimEnd]
    exact (List.mem_filter.1 hk).2
  have htrim : Text.trimEnd ∘ Text.trimEnd = Text.trimEnd := funext Text.trimEnd_trimEnd
  rw [keptLines_eq (keptLines base ++ g.dataLines), hlines, List.filter_append, hkept,
    filter_isKept_dataLines hg, List.append_nil, List.map_map, htrim, ← keptLines_eq]

theorem hasValue_merged {base : String}
    (h : (Property.read base).map.hasValue Known.visualizationType.id = true) :
    (Property.read (String.ofList (keptLines base.toList ++ g.dataLines))).map.hasValue
      Known.visualizationType.id = true := by
  rw [hasValue_eq_any (allBlank_of_hasValue h)] at h
  unfold Property.Map.hasValue
  rw [get?_merged_of_isKeptId hg base (by decide), lastValue_filter_keeps (by decide) h, h]

end OneLine

theorem mergeInto_eq_ok {g : Grid} {base out : String} (h : g.mergeInto base = .ok out) :
    (Property.read base).map.hasValue Known.visualizationType.id = true ∧
      g.headers ≠ [] ∧ g.rows ≠ [] ∧
        out = String.ofList (keptLines base.toList ++ g.dataLines) := by
  unfold mergeInto at h
  split at h
  · cases h
  rename_i hbase
  split at h
  · cases h
  rename_i hheaders
  split at h
  · cases h
  rename_i hrows
  refine ⟨by simpa using hbase, by simpa using hheaders, by simpa using hrows, ?_⟩
  exact (Except.ok.inj h).symm

/-- One sheet merged behind another. -/
theorem mergeInto_merged {g : Grid} (hg : ∀ unit ∈ g.headers[1]?, '\n' ∉ unit.toList)
    {base out : String} (h : g.mergeInto base = .ok out) (later : Grid) :
    later.mergeInto out = later.mergeInto base := by
  obtain ⟨hbase, -, -, rfl⟩ := mergeInto_eq_ok h
  unfold mergeInto
  rw [hasValue_merged hg hbase, hbase, String.toList_ofList, keptLines_merged hg]

end Grid

end Sheet

/-! ## Sessions -/

namespace Session

/-- The session after an attempt to apply its sheet; one that fails changes nothing. -/
def attempt (s : Session) : Session :=
  match s.applyUpload with
  | .ok t => t
  | .error _ => s

section Uploaded

variable {s : Session} {g : Sheet.Grid} (hs : s.upload? = some g)
include hs

theorem applyUpload_eq : s.applyUpload = (g.mergeInto s.csv).map s.setCsv := by
  unfold applyUpload
  rw [hs]

/-- An application that succeeds leads to a session that the next one leaves as it is. -/
theorem applyUpload_of_ok (hg : ∀ unit ∈ g.headers[1]?, '\n' ∉ unit.toList) {t : Session}
    (h : s.applyUpload = .ok t) : t.applyUpload = .ok t := by
  rw [applyUpload_eq hs] at h
  cases hmerge : g.mergeInto s.csv with
  | error e =>
    rw [hmerge] at h
    cases h
  | ok out =>
    rw [hmerge] at h
    obtain rfl : s.setCsv out = t := Except.ok.inj h
    have hnext : (s.setCsv out).upload? = some g := hs
    have hsame : g.mergeInto (s.setCsv out).csv = .ok out :=
      (Sheet.Grid.mergeInto_merged hg hmerge g).trans hmerge
    rw [applyUpload_eq hnext, hsame]
    rfl

/-- **An attempt behind an attempt changes nothing.** -/
theorem attempt_attempt (hg : ∀ unit ∈ g.headers[1]?, '\n' ∉ unit.toList) :
    s.attempt.attempt = s.attempt := by
  cases h : s.applyUpload with
  | error e =>
    have hsame : s.attempt = s := by
      unfold attempt
      rw [h]
    rw [hsame, hsame]
  | ok t =>
    have hfirst : s.attempt = t := by
      unfold attempt
      rw [h]
    have hnext := applyUpload_of_ok hs hg h
    rw [hfirst]
    unfold attempt
    rw [hnext]

end Uploaded

end Session

namespace Sheet.Grid

/-- **The last sheet wins.** Let the second header of a sheet be on one line. Wherever the sheet is merged
    into a description, a later sheet is merged into the result exactly as into the description itself,
    be it with success or not; and a session that has the sheet at hand comes to the same description
    whether the sheet is applied once or any number of times. -/
theorem last_sheet_wins {g : Grid} (hg : ∀ unit ∈ g.headers[1]?, '\n' ∉ unit.toList) :
    (∀ base out, g.mergeInto base = .ok out →
      ∀ later : Grid, later.mergeInto out = later.mergeInto base) ∧
    ∀ s : Session, s.upload? = some g →
      (∀ t, s.applyUpload = .ok t → t.applyUpload = .ok t) ∧
      ∀ n, (Session.attempt^[n + 1] s).csv = s.attempt.csv := by
  refine ⟨fun base out h later => mergeInto_merged hg h later, fun s hs => ⟨?_, ?_⟩⟩
  · exact fun t ht => Session.applyUpload_of_ok hs hg ht
  · intro n
    rw [Function.iterate_succ_apply, Function.iterate_fixed (Session.attempt_attempt hs hg)]

/-- A description with repeated and empty lines, a sheet whose second header holds quotes and a carriage
    return, and a sheet without rows behind it. -/
theorem last_sheet_wins_of_sales :
    ∃ out, (Grid.mk ["Month", "\"Sales\"\r"] [["Jan", "10"]]).mergeInto
        "101,Pie\n 101 , Bar Chart \r\n401,\n601,[1]" = .ok out ∧
      (Grid.mk ["Month"] []).mergeInto out =
        (Grid.mk ["Month"] []).mergeInto "101,Pie\n 101 , Bar Chart \r\n401,\n601,[1]" ∧
      (Session.attempt^[3] ⟨.standard, "101,Pie\n 101 , Bar Chart \r\n401,\n601,[1]",
        some (Grid.mk ["Month", "\"Sales\"\r"] [["Jan", "10"]]), none⟩).csv = out := by
  have hwins := @last_sheet_wins ⟨["Month", "\"Sales\"\r"], [["Jan", "10"]]⟩ (by decide)
  have hmerge := @mergeInto_eq ⟨["Month", "\"Sales\"\r"], [["Jan", "10"]]⟩
    "101,Pie\n 101 , Bar Chart \r\n401,\n601,[1]" (by decide) (by decide) (by decide)
  refine ⟨_, hmerge, hwins.1 _ _ hmerge _, ?_⟩
  rw [(hwins.2 _ rfl).2 2]
  unfold Session.attempt Session.applyUpload
  simp only [hmerge]
  rfl

end Sheet.Grid

end Infochart
