import Infochart.Session
import Mathlib.Data.List.Induction

/-!
# Runs of sessions

A session is used call by call, and a call that is refused leaves it as it is. What is at hand then
depends on the calls as follows: the configuration on none of them, the sheet on the last call that
handed one over, and the chart on the last call to generate one, at which it was made from the
description of that moment. Each of the three is one step lemma (`config_perform`, `upload?_perform`,
`generated?_perform`) and an induction over the calls from the last one.
-/

namespace Infochart.Session

/-! ## Calls -/

/-- What is asked of a session. A sheet is uploaded from whatever gives the sheets at paths at that time;
    reading files (`Sheet.Grid.ofFile`) is one such way. -/
inductive Call where
  | setCsv (csv : String)
  | setUpload (g : Sheet.Grid)
  | upload (load : String → Except Sheet.Problem Sheet.Grid) (path : String)
  | applyUpload
  | generate
  | export (format : Export.Format)

/-- Why a call is refused. -/
inductive Refusal where
  | sheet (problem : Sheet.Problem)
  | export (failure : Export.Failure)
  deriving DecidableEq, Repr

/-- What a call gives back when it is not refused. What it left in the session can be looked up there. -/
inductive Reply where
  | done
  | exported (e : Export.Exported)
  deriving DecidableEq, Repr

/-- The session behind a step that may fail, with the reply. -/
def settle (s : Session) : Except Sheet.Problem Session → Except Refusal Reply × Session
  | .ok t => (.ok .done, t)
  | .error p => (.error (.sheet p), s)

def perform (s : Session) : Call → Except Refusal Reply × Session
  | .setCsv csv => (.ok .done, s.setCsv csv)
  | .setUpload g => (.ok .done, s.setUpload g)
  | .upload load path => s.settle (s.uploadFrom load path)
  | .applyUpload => s.settle s.applyUpload
  | .generate => (.ok .done, s.generate)
  | .export format => (((s.exportAs format).map .exported).mapError .export, s)

/-- The session after some calls, in order. -/
def after (s : Session) (calls : List Call) : Session :=
  calls.foldl (fun s call => (s.perform call).2) s

/-- The sheet that a call hands over, if it does. -/
def Call.sheet? : Call → Option Sheet.Grid
  | .setUpload g => some g
  | .upload load path => (load path).toOption
  | _ => none

@[simp] theorem after_concat (s : Session) (calls : List Call) (call : Call) :
    s.after (calls ++ [call]) = ((s.after calls).perform call).2 := by
  unfold after
  rw [List.foldl_append, List.foldl_cons, List.foldl_nil]

theorem after_append (s : Session) (calls more : List Call) :
    s.after (calls ++ more) = (s.after calls).after more :=
  List.foldl_append

/-! ## One call -/

/-- **A refused call leaves the session as it is.** -/
theorem perform_of_refused {s : Session} {call : Call} {e : Refusal}
    (h : (s.perform call).1 = .error e) : (s.perform call).2 = s := by
  have hsettle : ∀ r, (s.settle r).1 = .error e → (s.settle r).2 = s := by
    intro r hr
    cases r with
    | ok t => cases hr
    | error p => rfl
  cases call with
  | setCsv csv => cases h
  | setUpload g => cases h
  | upload load path => exact hsettle _ h
  | applyUpload => exact hsettle _ h
  | generate => cases h
  | «export» format => rfl

/-- An application changes the description only, if anything. -/
theorem settle_applyUpload (s : Session) :
    ∃ csv, (s.settle s.applyUpload).2 = s.setCsv csv := by
  unfold applyUpload
  cases s.upload? with
  | none => exact ⟨s.csv, rfl⟩
  | some g =>
    simp only
    cases g.mergeInto s.csv with
    | error p => exact ⟨s.csv, rfl⟩
    | ok csv => exact ⟨csv, rfl⟩

/-- An upload changes the sheet only, if anything. -/
theorem settle_uploadFrom (s : Session) (load : String → Except Sheet.Problem Sheet.Grid)
    (path : String) :
    (s.settle (s.uploadFrom load path)).2 =
      { s with upload? := (load path).toOption.or s.upload? } := by
  unfold uploadFrom
  cases load path with
  | ok g => rfl
  | error p => rfl

@[simp] theorem config_perform (s : Session) (call : Call) :
    (s.perform call).2.config = s.config := by
  cases call with
  | upload load path =>
    show (s.settle (s.uploadFrom load path)).2.config = s.config
    rw [settle_uploadFrom]
  | applyUpload =>
    obtain ⟨csv, hcsv⟩ := s.settle_applyUpload
    show (s.settle s.applyUpload).2.config = s.config
    rw [hcsv]
    rfl
  | _ => rfl

@[simp] theorem upload?_perform (s : Session) (call : Call) :
    (s.perform call).2.upload? = call.sheet?.or s.upload? := by
  cases call with
  | upload load path =>
    show (s.settle (s.uploadFrom load path)).2.upload? = _
    rw [settle_uploadFrom]
    rfl
  | applyUpload =>
    obtain ⟨csv, hcsv⟩ := s.settle_applyUpload
    show (s.settle s.applyUpload).2.upload? = _
    rw [hcsv]
    rfl
  | _ => rfl

/-- No call but the one to generate a chart touches the chart. -/
theorem generated?_perform {s : Session} {call : Call} (h : call ≠ .generate) :
    (s.perform call).2.generated? = s.generated? := by
  cases call with
  | upload load path =>
    show (s.settle (s.uploadFrom load path)).2.generated? = _
    rw [settle_uploadFrom]
  | applyUpload =>
    obtain ⟨csv, hcsv⟩ := s.settle_applyUpload
    show (s.settle s.applyUpload).2.generated? = _
    rw [hcsv]
    rfl
  | generate => exact absurd rfl h
  | _ => rfl

/-! ## Any number of calls -/

theorem config_after (s : Session) (calls : List Call) : (s.after calls).config = s.config := by
  induction calls using List.reverseRecOn with
  | nil => rfl
  | append_singleton calls call ih => rw [after_concat, config_perform, ih]

theorem upload?_after (s : Session) (calls : List Call) :
    (s.after calls).upload? = (calls.filterMap Call.sheet?).getLast?.or s.upload? := by
  induction calls using List.reverseRecOn with
  | nil => rfl
  | append_singleton calls call ih =>
    rw [after_concat, upload?_perform, ih, List.filterMap_append]
    cases hsheet : call.sheet? with
    | none => simp [hsheet]
    | some g => simp [hsheet]

theorem generated?_after_of_not_mem (s : Session) {calls : List Call} (h : .generate ∉ calls) :
    (s.after calls).generated? = s.generated? := by
  induction calls using List.reverseRecOn with
  | nil => rfl
  | append_singleton calls call ih =>
    rw [List.mem_append, List.mem_singleton, not_or] at h
    rw [after_concat, generated?_perform (Ne.symm h.2), ih h.1]

/-- The chart is the one of the description at the last call to generate one. -/
theorem generated?_after_generate (s : Session) (before : List Call) {rest : List Call}
    (h : .generate ∉ rest) :
    (s.after (before ++ .generate :: rest)).generated? =
      some (.ofCsv s.config (s.after before).csv) := by
  have hsplit : before ++ .generate :: rest = (before ++ [.generate]) ++ rest := by
    rw [List.append_assoc, List.singleton_append]
  rw [hsplit, after_append, generated?_after_of_not_mem _ h, after_concat, ← config_after s before]
  rfl

/-- Some calls with a chart among them have a last one. -/
theorem exists_last_generate {calls : List Call} (h : .generate ∈ calls) :
    ∃ before rest, calls = before ++ .generate :: rest ∧ .generate ∉ rest := by
  induction calls using List.reverseRecOn with
  | nil => cases h
  | append_singleton calls call ih =>
    by_cases hlast : call = .generate
    · exact ⟨calls, [], by rw [hlast], List.not_mem_nil⟩
    · rw [List.mem_append, List.mem_singleton, or_iff_left (Ne.symm hlast)] at h
      obtain ⟨before, rest, rfl, hrest⟩ := ih h
      refine ⟨before, rest ++ [call], by rw [List.append_assoc, List.cons_append], ?_⟩
      rw [List.mem_append, List.mem_singleton, not_or]
      exact ⟨hrest, Ne.symm hlast⟩

/-! ## Exports -/

theorem pictureSize_ne_nothingGenerated (r : RasterSettings) (g : Generated) :
    g.pictureSize r ≠ .error .nothingGenerated := by
  unfold Generated.pictureSize Drawing.pictureSize
  split
  · exact fun h => nomatch h
  · split
    · exact fun h => nomatch h
    · simp only
      split <;> exact fun h => nomatch h

/-- **An export lacks a chart exactly if none was generated.** -/
theorem exportAs_eq_nothingGenerated_iff (s : Session) (format : Export.Format) :
    s.exportAs format = .error .nothingGenerated ↔ s.generated? = none := by
  unfold exportAs
  cases s.generated? with
  | none => simp
  | some g =>
    simp only [reduceCtorEq, iff_false]
    cases format with
    | svg => exact fun h => nomatch h
    | json => exact fun h => nomatch h
    | png =>
      have hsize := pictureSize_ne_nothingGenerated s.config.raster g
      cases hpicture : g.pictureSize s.config.raster with
      | ok wh => exact fun h => nomatch h
      | error f =>
        rintro ⟨⟩
        exact hsize hpicture

theorem perform_export_iff (s : Session) (format : Export.Format) :
    (s.perform (.export format)).1 = .error (.export .nothingGenerated) ↔ s.generated? = none := by
  rw [← exportAs_eq_nothingGenerated_iff s format]
  show Except.mapError _ (Except.map _ (s.exportAs format)) = _ ↔ _
  cases s.exportAs format with
  | ok e => simp [Except.map, Except.mapError]
  | error f => simp [Except.map, Except.mapError]

/-- Of all that a session holds a drawing or a text of data shows the chart only. -/
theorem exportAs_congr {s t : Session} (h : t.generated? = s.generated?) {format : Export.Format}
    (hformat : format ≠ .png) : t.exportAs format = s.exportAs format := by
  unfold exportAs
  rw [h]
  cases format with
  | png => exact absurd rfl hformat
  | _ => rfl

/-! ## Whole runs -/

/-- **What is at hand after any calls.** The configuration is that of the start. A further call that is
    refused leaves the description, the sheet and the chart as they are. The sheet is the last one that
    was handed over. There is a chart exactly if one was generated, and then it is the one of the
    description at the last call to generate one, whatever came later. An export leaves the session as it
    is, lacks a chart exactly if there is none, and shows in a drawing or a text of data nothing but the
    chart. -/
theorem after_calls (c : Config) (calls : List Call) :
    let s := (start c).after calls
    s.config = c ∧
    (∀ call e, (s.perform call).1 = .error e →
      (s.perform call).2.csv = s.csv ∧ (s.perform call).2.upload? = s.upload? ∧
        (s.perform call).2.generated? = s.generated?) ∧
    s.upload? = (calls.filterMap Call.sheet?).getLast? ∧
    (s.generated? = none ↔ .generate ∉ calls) ∧
    (∀ before rest, calls = before ++ .generate :: rest → .generate ∉ rest →
      s.generated? = some (.ofCsv c ((start c).after before).csv)) ∧
    ∀ format, (s.perform (.export format)).2 = s ∧
      ((s.perform (.export format)).1 = .error (.export .nothingGenerated) ↔ s.generated? = none) ∧
      ∀ t : Session, t.generated? = s.generated? → format ≠ .png →
        t.exportAs format = s.exportAs format := by
  have hchart : ∀ before rest, calls = before ++ .generate :: rest → .generate ∉ rest →
      ((start c).after calls).generated? = some (.ofCsv c ((start c).after before).csv) := by
    rintro before rest rfl hrest
    exact generated?_after_generate (start c) before hrest
  refine ⟨config_after _ calls, fun call e he => ?_, ?_, ⟨fun hnone hmem => ?_, fun hmem => ?_⟩,
    hchart, fun format => ⟨rfl, perform_export_iff _ format, fun t ht hformat => ?_⟩⟩
  · rw [perform_of_refused he]
    exact ⟨rfl, rfl, rfl⟩
  · rw [upload?_after]
    exact Option.or_none
  · obtain ⟨before, rest, hsplit, hrest⟩ := exists_last_generate hmem
    rw [hchart before rest hsplit hrest] at hnone
    cases hnone
  · exact generated?_after_of_not_mem (start c) hmem
  · exact exportAs_congr ht hformat

/-- A chart is generated, its description replaced, and a sheet taken and merged into the new description,
    before an upload is refused: the chart is still that of the first description. -/
theorem after_calls_with_stale_chart :
    let g : Sheet.Grid := ⟨["Month", "Sales"], [["Jan", "10"]]⟩
    let s := (start .standard).after
      [.setCsv "101,Pie Chart", .generate, .setCsv "101,Bar Chart", .setUpload g, .applyUpload]
    let call : Call := .upload (fun _ => .error .workbook) "book.xlsx"
    s.upload? = some g ∧ s.generated? = some (.ofCsv .standard "101,Pie Chart") ∧
      (s.perform call).1 = .error (.sheet .workbook) ∧ (s.perform call).2.csv = s.csv ∧
      (start .standard |>.setCsv "101,Pie Chart" |>.generate).exportAs .json = s.exportAs .json := by
  obtain ⟨-, hrefused, hsheet, -, hchart, hexport⟩ := after_calls .standard
    [.setCsv "101,Pie Chart", .generate, .setCsv "101,Bar Chart",
      .setUpload ⟨["Month", "Sales"], [["Jan", "10"]]⟩, .applyUpload]
  have hgenerated := hchart [.setCsv "101,Pie Chart"] _ rfl (by simp)
  refine ⟨hsheet, hgenerated, rfl, (hrefused (.upload (fun _ => .error .workbook) "book.xlsx")
    (.sheet .workbook) rfl).1, ?_⟩
  exact (hexport .json).2.2 _ hgenerated.symm (by decide)

end Infochart.Session
