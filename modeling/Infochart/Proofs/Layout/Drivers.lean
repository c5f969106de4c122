import Infochart.Drawing.OfLayout
import Infochart.Proofs.Property.Map
import Mathlib.Data.List.Basic

/-!
# What a drawing depends on

A layout looks at a plan, and of the series of a plan only at those up to the fifth; so a plan may be
cut down to its drawn part without a change to its layout (`ofPlan_drawn`). The drawn part of the plan
of a map is made from twelve of its properties. Two maps that agree on these have one drawing, whatever
else they hold and in whatever order.
-/

namespace Infochart

namespace Layout

/-! ## The drawn part of a plan -/

namespace Plan

variable {α : Type}

/-- The plan without the series that no chart draws. -/
def drawn (p : Plan α) : Plan α :=
  { p with series := p.series.filter (·.index ≤ 5) }

@[simp] theorem datasets_drawn (p : Plan α) (limit : Nat) :
    p.drawn.datasets limit = p.datasets limit := by
  unfold datasets drawn
  rw [List.filter_filter]
  simp only [Bool.and_self]

@[simp] theorem dataset?_drawn (p : Plan α) {i : Nat} (hi : i ≤ 5) :
    p.drawn.dataset? i = p.dataset? i := by
  unfold dataset? drawn
  rw [List.find?_filter]
  refine congrArg (fun P => List.find? P p.series) (funext fun d => ?_)
  by_cases hd : d.index = i
  · simp [hd, hi]
  · simp [hd]

@[simp] theorem filled?_drawn (p : Plan α) {i : Nat} (hi : i ≤ 5) :
    p.drawn.filled? i = p.filled? i := by
  unfold filled?
  rw [dataset?_drawn p hi]

end Plan

theorem radarSeries_drawn {α : Type} (p : Plan α) : radarSeries p.drawn = radarSeries p := by
  simp [radarSeries]

section Drawn

variable {α : Type} [Scale α] (p : Plan α) (t : Theme α) (s : Settings α)

theorem processLayout_drawn : processLayout p.drawn t s = processLayout p t s := by
  unfold processLayout
  rw [Plan.dataset?_drawn p (by decide)]
  rfl

theorem timelineLayout_drawn : timelineLayout p.drawn t s = timelineLayout p t s := by
  unfold timelineLayout
  rw [Plan.dataset?_drawn p (by decide), Plan.dataset?_drawn p (by decide)]
  rfl

theorem comparisonLayout_drawn : comparisonLayout p.drawn t s = comparisonLayout p t s := by
  unfold comparisonLayout
  rw [Plan.filled?_drawn p (by decide), Plan.filled?_drawn p (by decide)]
  rfl

variable [Written α]

theorem barLayout_drawn : barLayout p.drawn t s = barLayout p t s := by
  have hframe : BarFrame.of p.drawn s = BarFrame.of p s := by
    unfold BarFrame.of
    rw [Plan.datasets_drawn]
    rfl
  unfold barLayout
  rw [Plan.datasets_drawn, hframe]
  rfl

theorem pieLayout_drawn : pieLayout p.drawn t s = pieLayout p t s := by
  unfold pieLayout
  rw [Plan.filled?_drawn p (by decide)]
  rfl

theorem lineLayout_drawn : lineLayout p.drawn t s = lineLayout p t s := by
  have hframe : LineFrame.of p.drawn s = LineFrame.of p s := by
    unfold LineFrame.of
    rw [Plan.datasets_drawn]
    rfl
  unfold lineLayout
  rw [Plan.datasets_drawn, hframe]
  rfl

theorem radarLayout_drawn : radarLayout p.drawn t s = radarLayout p t s := by
  have hframe : RadarFrame.of p.drawn s = RadarFrame.of p s := by
    unfold RadarFrame.of
    rw [radarSeries_drawn]
    rfl
  unfold radarLayout
  rw [radarSeries_drawn, hframe]
  rfl

/-- **A layout looks at the drawn part of its plan only.** -/
theorem ofPlan_drawn : ofPlan p.drawn t s = ofPlan p t s := by
  unfold ofPlan
  have hkind : p.drawn.kind = p.kind := rfl
  rw [hkind]
  cases p.kind with
  | bar => exact barLayout_drawn p t s
  | pie => exact pieLayout_drawn p t s
  | line => exact lineLayout_drawn p t s
  | radar => exact radarLayout_drawn p t s
  | process => exact processLayout_drawn p t s
  | timeline => exact timelineLayout_drawn p t s
  | comparison => exact comparisonLayout_drawn p t s

end Drawn

/-! ## The drawn part of the plan of a map -/

open Chart (Dataset Kind Spec)
open Property (Id Known Map)

/-- The identifiers of the properties that a drawing is made from. -/
def drivers : List Nat :=
  [101, 301, 302, 401, 601, 603, 606, 701, 702, 703, 704, 705]

/-- Whether two maps hold the same values, or none, for some identifiers. -/
def AgreeOn (ids : List Nat) (m n : Map) : Prop :=
  ∀ id : Id, id.toNat ∈ ids → m.get? id = n.get? id

section Agree

variable {m n : Map} (h : AgreeOn drivers m n)
include h

theorem find?_eq_of_agree {k : Known} (hk : k.number ∈ drivers) : m.find? k = n.find? k :=
  h k.id hk

theorem text?_eq_of_agree {k : Known} (hk : k.number ∈ drivers) : m.text? k = n.text? k := by
  unfold Map.text?
  rw [find?_eq_of_agree h hk]

theorem list?_eq_of_agree {k : Known} (hk : k.number ∈ drivers) : m.list? k = n.list? k := by
  unfold Map.list?
  rw [find?_eq_of_agree h hk]

theorem listTexts_eq_of_agree {k : Known} (hk : k.number ∈ drivers) :
    Chart.listTexts m k = Chart.listTexts n k := by
  unfold Chart.listTexts
  rw [list?_eq_of_agree h hk]

omit h in
/-- Of the six datasets of a map the first five are drawn. -/
theorem filter_datasetsOf (m : Map) :
    (Chart.datasetsOf m).filter (·.index ≤ 5) = (List.range' 1 5).filterMap fun i =>
      (m.list? (.dataset i)).map fun items => Dataset.mk i items := by
  have hrange : List.range' 1 Property.maxDatasets = List.range' 1 5 ++ [6] := by decide
  unfold Chart.datasetsOf
  rw [hrange, List.filterMap_append, List.filter_append]
  have hfirst : ∀ d ∈ (List.range' 1 5).filterMap fun i =>
      (m.list? (.dataset i)).map fun items => Dataset.mk i items, decide (d.index ≤ 5) = true := by
    intro d hd
    obtain ⟨i, hi, hd⟩ := List.mem_filterMap.1 hd
    obtain ⟨items, -, rfl⟩ := Option.map_eq_some_iff.1 hd
    have hlast : i < 1 + 5 := (List.mem_range'_1.1 hi).2
    exact decide_eq_true (show i ≤ 5 by omega)
  have hsixth : ([6].filterMap fun i => (m.list? (.dataset i)).map fun items =>
      Dataset.mk i items).filter (·.index ≤ 5) = [] := by
    cases hlist : m.list? (.dataset 6) <;> simp [hlist]
  rw [List.filter_eq_self.2 hfirst, hsixth, List.append_nil]

theorem filter_datasetsOf_eq :
    (Chart.datasetsOf m).filter (·.index ≤ 5) = (Chart.datasetsOf n).filter (·.index ≤ 5) := by
  have hlists : ∀ i ∈ List.range' 1 5, m.list? (.dataset i) = n.list? (.dataset i) := by
    intro i hi
    have hdriver : ∀ i ∈ List.range' 1 5, (Known.dataset i).number ∈ drivers := by decide
    exact list?_eq_of_agree h (hdriver i hi)
  rw [filter_datasetsOf, filter_datasetsOf]
  exact List.filterMap_congr fun i hi => by rw [hlists i hi]

/-- **Maps that agree on the drivers have plans with the same drawn part.** -/
theorem drawn_eq_of_agree (defaultScheme : String) (kind : Kind) :
    (Plan.ofSpec (Spec.withKind defaultScheme kind m)).drawn =
      (Plan.ofSpec (Spec.withKind defaultScheme kind n)).drawn := by
  have hscheme : Chart.schemeName defaultScheme m = Chart.schemeName defaultScheme n := by
    unfold Chart.schemeName
    rw [text?_eq_of_agree h (by decide)]
  have htitle : Chart.nonEmptyText? m .title = Chart.nonEmptyText? n .title := by
    unfold Chart.nonEmptyText?
    rw [text?_eq_of_agree h (by decide)]
  have hlayout : m.text? .layout = n.text? .layout := text?_eq_of_agree h (by decide)
  have hlabels := listTexts_eq_of_agree h (k := .labels) (by decide)
  have hnames := listTexts_eq_of_agree h (k := .seriesLabels) (by decide)
  have hscale := listTexts_eq_of_agree h (k := .scaleLabels) (by decide)
  have hseries := filter_datasetsOf_eq h
  unfold Plan.drawn Plan.ofSpec Spec.withKind
  simp only [List.filter_map, Function.comp_def]
  rw [hscheme, htitle, hlayout, hlabels, hnames, hscale, hseries]

/-- **One layout for all maps that agree on the drivers.** -/
theorem ofMap_eq_of_agree (t : Theme Float) (s : Settings Float) : ofMap m t s = ofMap n t s := by
  have htype : m.text? .visualizationType = n.text? .visualizationType :=
    text?_eq_of_agree h (by decide)
  have hkind : Spec.kindOf m = Spec.kindOf n := by
    unfold Spec.kindOf
    rw [htype]
  unfold ofMap Spec.ofMap?
  rw [htype, hkind]
  cases Spec.kindOf n with
  | none => rfl
  | some kind =>
    show ofPlan _ t s = ofPlan _ t s
    rw [← ofPlan_drawn, drawn_eq_of_agree h, ofPlan_drawn]

/-- **A drawing depends on its drivers only.** Two maps that hold the same values, or none, for the type,
    the layout, the color scheme, the title, the labels, the names of series and of the scale, and the
    first five datasets have the same layout and the same drawing under every theme and all settings,
    whatever their other properties are and whichever came first. -/
theorem drawing_eq_of_agree (t : Theme Float) (s : Settings Float) :
    ofMap m t s = ofMap n t s ∧
      (Drawing.ofLayout t (ofMap m t s)).svg = (Drawing.ofLayout t (ofMap n t s)).svg := by
  have hlayout := ofMap_eq_of_agree h t s
  exact ⟨hlayout, congrArg (fun l => (Drawing.ofLayout t l).svg) hlayout⟩

end Agree

/-- A bar chart, and the same one with its properties in another order among a subtitle, a unit, a sixth
    dataset and a property without a meaning. -/
theorem drawing_eq_of_agree_reordered :
    let m := Map.empty.insertAll
      [(Known.visualizationType.id, .text "bar"), (Known.labels.id, .list [.text "a"]),
       ((Known.dataset 1).id, .list [.number 3])]
    let n := Map.empty.insertAll
      [((Known.dataset 6).id, .list [.number 9]), ((Known.dataset 1).id, .list [.number 3]),
       (Known.subtitle.id, .text "more"), (Known.labels.id, .list [.text "a"]),
       (Known.unit.id, .text "kg"), (⟨999⟩, .text "?"), (Known.visualizationType.id, .text "bar")]
    AgreeOn drivers m n ∧
      (Drawing.ofLayout Theme.classic (ofMap m Theme.classic Settings.standard)).svg =
        (Drawing.ofLayout Theme.classic (ofMap n Theme.classic Settings.standard)).svg := by
  refine (fun h => ⟨h, (drawing_eq_of_agree h Theme.classic Settings.standard).2⟩) ?_
  rintro ⟨⟨i, hi⟩⟩ hid
  simp only [drivers, Id.toNat, List.mem_cons, List.not_mem_nil, or_false] at hid
  rcases hid with rfl | rfl | rfl | rfl | rfl | rfl | rfl | rfl | rfl | rfl | rfl | rfl <;> rfl

end Layout

end Infochart
