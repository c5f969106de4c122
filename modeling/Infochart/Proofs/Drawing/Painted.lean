import Infochart.Proofs.Drawing.Texts
import Infochart.Session

/-!
# The colors of drawings

Every value in a drawing is a text without markup or a color of the theme, and every color of a theme is a
value in the drawing of some description: the eight kinds of diagrams paint with colors of their own.

So a theme is safe for all descriptions only if each of its colors is. The descriptions are as small as the
kinds allow. They are fixed texts, but the theme and the settings are not; therefore what a description
says is computed once, and where its drawing has which color is proved for all plans that have as much.
-/

namespace Infochart

/-- The colors of a theme. -/
def Theme.colors {α : Type} (t : Theme α) : List String :=
  [t.textColor, t.axisColor, t.gridColor, t.ringColor, t.spokeColor, t.dividerColor, t.connectorColor,
    t.onFillTextColor, t.background, t.placeholderBackground, t.placeholderBorder,
    t.placeholderTextColor]

namespace Drawing

open Layout

/-- The values of the attributes of some elements. -/
def values (es : List Element) : List String :=
  es.flatMap fun e => e.attributes.map Attribute.value

/-- The drawing of a description. -/
def ofCsv (t : Theme Float) (s : Settings Float) (csv : String) : Drawing :=
  ofLayout t (ofMap (Property.read csv).map t s)

theorem toList_render (t : Theme Float) (s : Settings Float) (csv : String) :
    (render t s csv).toList = (ofCsv t s csv).chars :=
  String.toList_ofList

/-- What holds of all colors and of all texts without markup may be said of any value. -/
theorem permits_of_colors {P : String → Prop} {t : Theme Float} (hplain : ∀ s, IsPlain s → P s)
    (hcolors : ∀ v ∈ t.colors, P v) : Permits P t := by
  unfold Theme.colors at hcolors
  constructor
  case plain => exact hplain
  all_goals
    apply hcolors
    simp

/-- Every value in a drawing is a text without markup or a color of the theme. -/
theorem holds_of_mem_ofCsv (t : Theme Float) (s : Settings Float) (csv : String) :
    ∀ e ∈ (ofCsv t s csv).elements, e.Holds fun v => IsPlain v ∨ v ∈ t.colors := by
  have ht : Permits (fun v => IsPlain v ∨ v ∈ t.colors) t :=
    permits_of_colors (fun _ => .inl) fun _ => .inr
  exact holds_of_mem_elements ht (ht.colored_ofMap _ s)

/-! ## Colors in diagrams -/

section Parts

variable {α : Type} [Written α] {t : Theme α}

theorem connectorColor_mem {d : ProcessDiagram α} (h : d.arrows ≠ []) :
    t.connectorColor ∈ values (processDiagram t d) := by
  obtain ⟨a, r, harrows⟩ := List.exists_cons_of_ne_nil h
  simp [values, processDiagram, harrows]

theorem onFillTextColor_mem {d : ProcessDiagram α} (h : d.steps ≠ [])
    (hcolor : ∀ s ∈ d.steps, s.title.color = some t.onFillTextColor) :
    t.onFillTextColor ∈ values (processDiagram t d) := by
  obtain ⟨s, r, hsteps⟩ := List.exists_cons_of_ne_nil h
  have htitle := hcolor s (by simp [hsteps])
  simp [values, processDiagram, label, hsteps, htitle]

variable [Scale α]

theorem axisColor_mem (c : BarChart α) : t.axisColor ∈ values (barChart t c) := by
  simp [values, barChart, axes, segment]

theorem gridColor_mem {c : BarChart α} (h : c.ticks ≠ []) : t.gridColor ∈ values (barChart t c) := by
  obtain ⟨k, r, hticks⟩ := List.exists_cons_of_ne_nil h
  simp [values, barChart, ticks, segment, hticks]

theorem ringColor_mem {c : RadarChart α} (h : c.rings ≠ []) :
    t.ringColor ∈ values (radarChart t c) := by
  obtain ⟨k, r, hrings⟩ := List.exists_cons_of_ne_nil h
  simp [values, radarChart, hrings]

theorem spokeColor_mem {c : RadarChart α} (h : c.axes ≠ []) :
    t.spokeColor ∈ values (radarChart t c) := by
  obtain ⟨a, r, haxes⟩ := List.exists_cons_of_ne_nil h
  simp [values, radarChart, segment, haxes]

theorem dividerColor_mem (l : Timeline α) : t.dividerColor ∈ values (timeline t l) := by
  simp [values, timeline, segment]

theorem colors_mem_placeholder (b : Placeholder α) :
    ∀ v ∈ [t.placeholderBackground, t.placeholderBorder, t.placeholderTextColor],
      v ∈ values (placeholder t b) := by
  simp [values, placeholder, box, label]

/-! ## Colors in layouts -/

theorem background_mem (l : Layout α) : t.background ∈ values (ofLayout t l).elements := by
  simp [values, ofLayout]

/-- A title has the color of texts. -/
theorem textColor_mem (p : Plan α) (kind : Chart.Kind) (s : Settings α) (d : Diagram α) :
    t.textColor ∈ values (ofLayout t (chartLayout p kind t s d)).elements := by
  simp [values, ofLayout, chartLayout, titleLabel, label]

/-- The elements of the diagram stand behind the background and the title. -/
theorem mem_of_mem_diagram {l : Layout α} {v : String} (hv : v ∈ values (diagram t l.diagram)) :
    v ∈ values (ofLayout t l).elements := by
  obtain ⟨e, he, hv⟩ := List.mem_flatMap.1 hv
  exact List.mem_flatMap.2 ⟨e, List.mem_append_right _ he, hv⟩

variable (t) (s : Settings α) {p : Plan α}

/-- An axis has two steps or more, whatever the settings say. -/
theorem colors_mem_barLayout (h : (p.labels.isEmpty || (p.datasets 5).isEmpty) = false) :
    ∀ v ∈ [t.textColor, t.axisColor, t.gridColor],
      v ∈ values (ofLayout t (barLayout p t s)).elements := by
  have hticks (plot : Area α) (orientation : Chart.Orientation) (low high : α) (count : Nat) :
      valueTicks plot orientation low high count t ≠ [] := by
    simp [valueTicks]
  unfold barLayout
  simp only [h, Bool.false_eq_true, if_false, List.forall_mem_cons]
  exact ⟨textColor_mem _ _ _ _, mem_of_mem_diagram (axisColor_mem _),
    mem_of_mem_diagram (gridColor_mem (hticks _ _ _ _ _)), by simp⟩

/-- A radar chart has a ring at least and a spoke for each label. -/
theorem colors_mem_radarLayout (h : (p.labels.isEmpty || (radarSeries p).isEmpty) = false) :
    ∀ v ∈ [t.ringColor, t.spokeColor],
      v ∈ values (ofLayout t (radarLayout p t s)).elements := by
  have hlabels : p.labels ≠ [] := by
    rw [Bool.or_eq_false_iff, List.isEmpty_eq_false_iff] at h
    exact h.1
  unfold radarLayout
  simp only [h, Bool.false_eq_true, if_false, List.forall_mem_cons]
  refine ⟨mem_of_mem_diagram (ringColor_mem ?_), mem_of_mem_diagram (spokeColor_mem ?_), by simp⟩
  · simp
  · simpa using hlabels

/-- There is an arrow as soon as there are two steps. -/
theorem colors_mem_processLayout (h : 1 < p.labels.length) :
    ∀ v ∈ [t.connectorColor, t.onFillTextColor],
      v ∈ values (ofLayout t (processLayout p t s)).elements := by
  have hlabels : p.labels ≠ [] := List.ne_nil_of_length_pos (by omega)
  unfold processLayout
  rw [if_neg (by simpa using hlabels)]
  simp only [List.forall_mem_cons]
  refine ⟨mem_of_mem_diagram (connectorColor_mem ?_),
    mem_of_mem_diagram (onFillTextColor_mem ?_ ?_), by simp⟩
  · simp
    omega
  · simpa using hlabels
  · intro step hstep
    obtain ⟨⟨label, i⟩, -, rfl⟩ := List.mem_map.1 hstep
    rfl

theorem dividerColor_mem_timelineLayout (h : p.labels.isEmpty = false) :
    t.dividerColor ∈ values (ofLayout t (timelineLayout p t s)).elements := by
  unfold timelineLayout
  rw [if_neg (by simp [h])]
  exact mem_of_mem_diagram (dividerColor_mem _)

end Parts

/-! ## Colors in descriptions -/

section Maps

variable {m : Property.Map} {kind : Chart.Kind} (t : Theme Float) (s : Settings Float)

theorem ofMap_of_kind (h : Chart.Spec.kindOf m = some kind) :
    ofMap m t s = ofPlan (Plan.ofSpec (Chart.Spec.withKind s.defaultColorScheme kind m)) t s := by
  unfold ofMap Chart.Spec.ofMap?
  rw [h]
  rfl

theorem ofMap_of_unknown (h : Chart.Spec.kindOf m = none) :
    ofMap m t s = unsupported (m.text? .visualizationType) s := by
  unfold ofMap Chart.Spec.ofMap?
  rw [h]
  rfl

/-- The plan of a map as a chart of a given kind, but for its colors. These depend on the settings, so what
    is computed of a fixed map leaves them out. -/
def planOf (kind : Chart.Kind) (m : Property.Map) : Plan Float :=
  Plan.ofSpec (Chart.Spec.withKind "" kind m)

theorem colors_mem_bar (hkind : Chart.Spec.kindOf m = some .bar)
    (h : ((planOf .bar m).labels.isEmpty || ((planOf .bar m).datasets 5).isEmpty) = false) :
    ∀ v ∈ [t.textColor, t.axisColor, t.gridColor],
      v ∈ values (ofLayout t (ofMap m t s)).elements := by
  rw [ofMap_of_kind t s hkind]
  exact colors_mem_barLayout t s
    (p := Plan.ofSpec (Chart.Spec.withKind s.defaultColorScheme .bar m)) h

theorem colors_mem_radar (hkind : Chart.Spec.kindOf m = some .radar)
    (h : ((planOf .radar m).labels.isEmpty || (radarSeries (planOf .radar m)).isEmpty) = false) :
    ∀ v ∈ [t.ringColor, t.spokeColor], v ∈ values (ofLayout t (ofMap m t s)).elements := by
  rw [ofMap_of_kind t s hkind]
  exact colors_mem_radarLayout t s
    (p := Plan.ofSpec (Chart.Spec.withKind s.defaultColorScheme .radar m)) h

theorem colors_mem_process (hkind : Chart.Spec.kindOf m = some .process)
    (h : 1 < (planOf .process m).labels.length) :
    ∀ v ∈ [t.connectorColor, t.onFillTextColor],
      v ∈ values (ofLayout t (ofMap m t s)).elements := by
  rw [ofMap_of_kind t s hkind]
  exact colors_mem_processLayout t s
    (p := Plan.ofSpec (Chart.Spec.withKind s.defaultColorScheme .process m)) h

theorem dividerColor_mem_of_timeline (hkind : Chart.Spec.kindOf m = some .timeline)
    (h : (planOf .timeline m).labels.isEmpty = false) :
    t.dividerColor ∈ values (ofLayout t (ofMap m t s)).elements := by
  rw [ofMap_of_kind t s hkind]
  exact dividerColor_mem_timelineLayout t s
    (p := Plan.ofSpec (Chart.Spec.withKind s.defaultColorScheme .timeline m)) h

theorem colors_mem_unknown (hkind : Chart.Spec.kindOf m = none) :
    ∀ v ∈ [t.placeholderBackground, t.placeholderBorder, t.placeholderTextColor],
      v ∈ values (ofLayout t (ofMap m t s)).elements := by
  rw [ofMap_of_unknown t s hkind]
  exact fun v hv => mem_of_mem_diagram (colors_mem_placeholder _ v hv)

end Maps

/-- **Every color of a theme is in the drawing of some description**, whatever the settings are. -/
theorem exists_csv_of_mem_colors (t : Theme Float) (s : Settings Float) :
    ∀ v ∈ t.colors, ∃ csv, v ∈ values (ofCsv t s csv).elements := by
  have hbar : ∀ v ∈ [t.textColor, t.axisColor, t.gridColor],
      v ∈ values (ofCsv t s "101,Bar Chart\n601,[\"a\"]\n701,[1]").elements := by
    apply colors_mem_bar
    · decide +kernel
    · decide +kernel
  have hradar : ∀ v ∈ [t.ringColor, t.spokeColor],
      v ∈ values (ofCsv t s "101,Radar Chart\n601,[\"a\"]\n701,[1]").elements := by
    apply colors_mem_radar
    · decide +kernel
    · decide +kernel
  have hprocess : ∀ v ∈ [t.connectorColor, t.onFillTextColor],
      v ∈ values (ofCsv t s "101,Process\n601,[\"a\",\"b\"]").elements := by
    apply colors_mem_process
    · decide +kernel
    · decide +kernel
  have htimeline : t.dividerColor ∈ values (ofCsv t s "101,Timeline\n601,[\"a\"]").elements := by
    apply dividerColor_mem_of_timeline
    · decide +kernel
    · decide +kernel
  have hunknown : ∀ v ∈ [t.placeholderBackground, t.placeholderBorder, t.placeholderTextColor],
      v ∈ values (ofCsv t s "").elements := by
    apply colors_mem_unknown
    decide +kernel
  simp only [List.forall_mem_cons] at hbar hradar hprocess hunknown
  unfold Theme.colors
  simp only [List.forall_mem_cons]
  exact ⟨⟨_, hbar.1⟩, ⟨_, hbar.2.1⟩, ⟨_, hbar.2.2.1⟩, ⟨_, hradar.1⟩, ⟨_, hradar.2.1⟩,
    ⟨_, htimeline⟩, ⟨_, hprocess.1⟩, ⟨_, hprocess.2.1⟩, ⟨"", background_mem _⟩, ⟨_, hunknown.1⟩,
    ⟨_, hunknown.2.1⟩, ⟨_, hunknown.2.2.1⟩, by simp⟩

end Drawing

end Infochart
