import Infochart.Proofs.Drawing.Finite
import Infochart.Proofs.Layout.Drivers
import Infochart.Proofs.Layout.Shown

/-!
# Charts show the data of their description

The plan of a map has the content of the map: its datasets are found by their numbers, whichever of them
are missing. Amounts of a map are finite numbers, so they are positive or not; with that what a diagram
shows of its plan is what it shows of the map.
-/

namespace Infochart.Layout

open Chart (Dataset Kind Spec)
open Property (Map)

variable (defaultScheme : String) (kind : Kind) (m : Map)

theorem find?_datasetsOf {i : Nat} (hi : i ∈ List.range' 1 Property.maxDatasets) :
    (Chart.datasetsOf m).find? (·.index == i) =
      (m.list? (.dataset i)).map fun items => ⟨i, items⟩ := by
  unfold Chart.datasetsOf
  rw [List.find?_filterMap]
  simp only [Option.any_map]
  cases hfound : (List.range' 1 Property.maxDatasets).find? fun j =>
      (m.list? (.dataset j)).any fun _ => j == i with
  | none =>
    have hnone := List.find?_eq_none.1 hfound i hi
    cases hlist : m.list? (.dataset i) with
    | none => rfl
    | some items => simp [hlist] at hnone
  | some j =>
    have hfits := List.find?_some (p := fun j => (m.list? (.dataset j)).any fun _ => j == i) hfound
    obtain ⟨items, -, hj⟩ := (Option.any_eq_true _ _).1 hfits
    rw [eq_of_beq hj]
    rfl

/-- The plan of a map finds the datasets of the map by their numbers. -/
theorem filled?_ofSpec {i : Nat} (hi : i ∈ List.range' 1 Property.maxDatasets) :
    ((Plan.ofSpec (Spec.withKind defaultScheme kind m)).filled? i).map Series.entries =
      (entries? m i).filter (!·.isEmpty) := by
  have hdataset : (Plan.ofSpec (Spec.withKind defaultScheme kind m)).dataset? i =
      (entries? m i).map fun es => ⟨i, es⟩ := by
    unfold Plan.dataset? Plan.ofSpec Spec.withKind entries?
    rw [List.find?_map, Option.map_map]
    show ((Chart.datasetsOf m).find? (·.index == i)).map _ = _
    rw [find?_datasetsOf m hi, Option.map_map]
    rfl
  unfold Plan.filled?
  rw [hdataset]
  cases entries? m i with
  | none => rfl
  | some es => cases es <;> rfl

theorem datasets_ofSpec :
    ((Plan.ofSpec (Spec.withKind defaultScheme kind m)).datasets 5).map Series.entries =
      (List.range' 1 5).filterMap (entries? m) := by
  have hdrawn : (Plan.ofSpec (Spec.withKind defaultScheme kind m)).series.filter (·.index ≤ 5) =
      (List.range' 1 5).filterMap fun i => (entries? m i).map fun es => ⟨i, es⟩ := by
    unfold Plan.ofSpec Spec.withKind entries?
    rw [List.filter_map]
    show ((Chart.datasetsOf m).filter (·.index ≤ 5)).map _ = _
    rw [filter_datasetsOf, List.map_filterMap]
    simp only [Option.map_map, Function.comp_def]
  have hlength : ((List.range' 1 5).filterMap fun i =>
      (entries? m i).map fun es => (⟨i, es⟩ : Series Float)).length ≤ 5 :=
    List.length_filterMap_le ..
  unfold Plan.datasets
  rw [hdrawn, List.take_of_length_le hlength, List.map_filterMap]
  simp only [Option.map_map, Function.comp_def, Option.map_id']

/-- **The content of the plan of a map is that of the map.** -/
theorem content_ofSpec :
    (Plan.ofSpec (Spec.withKind defaultScheme kind m)).content kind =
      Content.ofMap defaultScheme kind m := by
  have hfirst := filled?_ofSpec defaultScheme kind m (i := 1) (by decide)
  have hsecond := filled?_ofSpec defaultScheme kind m (i := 2) (by decide)
  have hseries : ((Plan.ofSpec (Spec.withKind defaultScheme kind m)).seriesFor kind).map
      Series.entries = seriesOf kind (entries? m) := by
    unfold Plan.seriesFor seriesOf radarSeries
    simp only [← hfirst, ← hsecond]
    cases kind with
    | bar | line => exact datasets_ofSpec ..
    | pie => exact Option.toList_map.symm
    | radar | comparison =>
      cases (Plan.ofSpec (Spec.withKind defaultScheme _ m)).filled? 1 <;>
        cases (Plan.ofSpec (Spec.withKind defaultScheme _ m)).filled? 2 <;> rfl
    | process | timeline => rfl
  unfold Plan.content Content.ofMap
  rw [hseries]
  rfl

theorem not_le_zero_iff {x : Float} (hx : Decimal.isFinite x = true) :
    ¬ x ≤ ((0 : Nat) : Float) ↔ ((0 : Nat) : Float) < x := by
  have hzero : Decimal.value? ((0 : Nat) : Float) = some 0 := by
    decide +kernel
  obtain ⟨v, hv⟩ := Decimal.isFinite_iff.1 hx
  rw [Decimal.le_iff_of_value hv hzero, Decimal.lt_iff_of_value hzero hv, not_le]

/-- The amounts of the plan of a specification are positive or not. -/
theorem sign_ofSpec (spec : Spec) : ∀ d ∈ (Plan.ofSpec spec).series, ∀ v ∈ d.amounts,
    ¬ v ≤ 0 ↔ 0 < v := by
  intro d hd v hv
  obtain ⟨e, -, rfl⟩ := List.mem_map.1 hd
  rw [Series.amounts, List.map_map] at hv
  obtain ⟨x, -, rfl⟩ := List.mem_map.1 hv
  exact not_le_zero_iff x.isFinite_amount

/-- What is laid out of a map shows the content of the map, or says what it lacks. -/
theorem outcome_ofSpec (t : Theme Float) (s : Settings Float) :
    Outcome kind (Content.ofMap defaultScheme kind m)
      (ofSpec (Spec.withKind defaultScheme kind m) t s) := by
  rw [← content_ofSpec]
  exact outcome_ofPlan (Plan.ofSpec (Spec.withKind defaultScheme kind m)) t s (sign_ofSpec _)

theorem not_isPlaceholder {l : Layout Float} (h : LacksData kind l) : l.isPlaceholder = true := by
  obtain ⟨box, requirement, hdiagram, -⟩ := h
  unfold Layout.isPlaceholder
  rw [hdiagram]

/-- **Every chart shows its data.** What is laid out of the specification of a map, under every theme and
    all settings, is a box or a diagram of the kind of the specification that shows the content of the
    map: each entry that has a label, each label and each series of its kind once, in their order. -/
theorem shows_of_not_isPlaceholder {spec : Spec} {defaultScheme : String} {m : Map}
    (hspec : Spec.ofMap? defaultScheme m = some spec ∨
      ∃ kind, spec = Spec.withKind defaultScheme kind m)
    (t : Theme Float) (s : Settings Float) (h : (ofSpec spec t s).isPlaceholder = false) :
    (ofSpec spec t s).diagram.Shows spec.kind (Content.ofMap defaultScheme spec.kind m) := by
  obtain ⟨kind, rfl⟩ : ∃ kind, spec = Spec.withKind defaultScheme kind m := by
    rcases hspec with hspec | hspec
    · obtain ⟨kind, -, rfl⟩ := Option.map_eq_some_iff.1 hspec
      exact ⟨kind, rfl⟩
    · exact hspec
  cases outcome_ofSpec defaultScheme kind m t s with
  | drawn _ hshows => exact hshows
  | missing _ hbox => exact absurd (not_isPlaceholder kind hbox) (by rw [h]; decide)

/-- A bar chart whose second dataset is missing, with a short dataset and a long one. -/
theorem shows_of_not_isPlaceholder_ragged :
    let m := Map.empty.insertAll
      [(Property.Known.visualizationType.id, .text "bar"),
       (Property.Known.labels.id, .list [.text "a", .text "b"]),
       ((Property.Known.dataset 1).id, .list [.number 3]),
       ((Property.Known.dataset 3).id, .list [.number 1, .text "2", .number (-4)])]
    let spec := Spec.withKind "corporate" .bar m
    (Spec.ofMap? "corporate" m = some spec ∨ ∃ kind, spec = Spec.withKind "corporate" kind m) ∧
      (ofSpec spec Theme.classic Settings.standard).isPlaceholder = false ∧
        (ofSpec spec Theme.classic Settings.standard).diagram.Shows .bar
          (Content.ofMap "corporate" .bar m) := by
  intro m spec
  have hspec : Spec.ofMap? "corporate" m = some spec ∨
      ∃ kind, spec = Spec.withKind "corporate" kind m := .inl rfl
  have hdrawn : (ofSpec spec Theme.classic Settings.standard).isPlaceholder = false := rfl
  exact ⟨hspec, hdrawn, shows_of_not_isPlaceholder hspec Theme.classic Settings.standard hdrawn⟩

end Infochart.Layout
