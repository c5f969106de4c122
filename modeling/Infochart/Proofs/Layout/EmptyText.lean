import Infochart.Layout.Compute
import Infochart.Proofs.Property.Map

/-!
# Empty texts

A text without a character says as much as no text at all. The readers of a specification see to that
each in its own way, but all of them read texts through `nonEmptyText?` in the end, or lists. The layout
text of a bar chart is the one exception: it turns the bars on their side by being there, even if it is
empty (`ofMap_without_iff`).
-/

namespace Infochart

/-! ## Maps without an entry -/

namespace Property

/-- The map without the entry of an identifier. -/
def Map.without (m : Map) (id : Id) : Map :=
  ⟨m.entries.filter (·.1 ≠ id), m.nodup.sublist (List.filter_sublist.map Prod.fst)⟩

theorem lookup_filter_ne {id k : Id} {es : List (Id × Value)} :
    lookup k (es.filter (·.1 ≠ id)) = if k = id then none else lookup k es := by
  induction es with
  | nil => simp [lookup]
  | cons e r ih =>
    obtain ⟨j, v⟩ := e
    by_cases hj : j = id
    · subst hj
      rw [List.filter_cons_of_neg (by simp), ih]
      by_cases hk : k = j
      · simp [hk]
      · simp [lookup, hk, Ne.symm hk]
    · rw [List.filter_cons_of_pos (by simpa using hj), lookup, ih, lookup]
      by_cases hk : j = k
      · subst hk
        simp [hj]
      · simp [hk]

theorem Map.get?_without (m : Map) (id k : Id) :
    (m.without id).get? k = if k = id then none else m.get? k :=
  lookup_filter_ne

end Property

open Property (Id Known Map Value)

namespace Chart

/-- Whether two maps have the same lists, and the same texts but for empty ones. -/
structure SameButEmpty (m n : Map) : Prop where
  text : ∀ k, nonEmptyText? m k = nonEmptyText? n k
  list : ∀ k, m.list? k = n.list? k

/-- An entry with an empty text may as well be absent. -/
theorem sameButEmpty_without {m : Map} {id : Id} (h : m.get? id = some (.text "")) :
    SameButEmpty (m.without id) m := by
  constructor
  · intro k
    unfold nonEmptyText? Map.text? Map.find?
    rw [m.get?_without id]
    by_cases hk : k.id = id
    · rw [if_pos hk, hk, h]
      rfl
    · rw [if_neg hk]
  · intro k
    unfold Map.list? Map.find?
    rw [m.get?_without id]
    by_cases hk : k.id = id
    · rw [if_pos hk, hk, h]
      rfl
    · rw [if_neg hk]

/-! ## Readers -/

section Readers

variable {m n : Map} (h : SameButEmpty m n)
include h

/-- A reader that makes of an empty text what it makes of none reads the same from both maps. -/
theorem SameButEmpty.read {β : Type} {f : Option String → β} (hf : f (some "") = f none) (k : Known) :
    f (m.text? k) = f (n.text? k) := by
  have hread (x : Option String) : f (x.filter (!·.isEmpty)) = f x := by
    cases x with
    | none => rfl
    | some s =>
      by_cases hs : s = ""
      · subst hs
        exact hf.symm
      · rw [Option.filter_some_pos (by simpa using hs)]
  have htext : (m.text? k).filter (!·.isEmpty) = (n.text? k).filter (!·.isEmpty) := h.text k
  rw [← hread, htext, hread]

theorem SameButEmpty.kindOf : Spec.kindOf m = Spec.kindOf n :=
  h.read (f := fun x => x.bind Kind.resolve) (by decide +kernel) .visualizationType

theorem SameButEmpty.schemeName (defaultScheme : String) :
    Chart.schemeName defaultScheme m = Chart.schemeName defaultScheme n := by
  unfold Chart.schemeName
  exact h.read (f := fun x => (x.filter fun s => !Text.allBlank s.toList).getD defaultScheme) rfl _

theorem SameButEmpty.listTexts (k : Known) : Chart.listTexts m k = Chart.listTexts n k := by
  unfold Chart.listTexts
  rw [h.list k]

theorem SameButEmpty.datasetsOf : Chart.datasetsOf m = Chart.datasetsOf n := by
  unfold Chart.datasetsOf
  simp only [h.list]

/-- The layout text turns a chart other than one of bars by a word in it. -/
theorem SameButEmpty.orientation {kind : Kind} (hkind : kind ≠ .bar) :
    Orientation.of (some kind) (m.text? .layout) = Orientation.of (some kind) (n.text? .layout) := by
  refine h.read ?_ .layout
  cases kind with
  | bar => exact absurd rfl hkind
  | _ => decide +kernel

/-- The specifications of both maps differ in their orientation at most. -/
theorem SameButEmpty.withKind (defaultScheme : String) (kind : Kind) :
    Spec.withKind defaultScheme kind m = { Spec.withKind defaultScheme kind n with
      orientation := Orientation.of (some kind) (m.text? .layout) } := by
  unfold Spec.withKind
  rw [h.schemeName, h.text, h.text, h.listTexts, h.datasetsOf, h.listTexts, h.text, h.listTexts]

/-- The specifications of both maps are the same, unless a layout text turns the bars. -/
theorem SameButEmpty.ofMap? (hbars : Spec.kindOf n = some .bar → m.text? .layout = n.text? .layout)
    (defaultScheme : String) : Spec.ofMap? defaultScheme m = Spec.ofMap? defaultScheme n := by
  unfold Spec.ofMap?
  rw [h.kindOf]
  refine Option.map_congr fun kind hkind => ?_
  rw [h.withKind]
  have horientation : Orientation.of (some kind) (m.text? .layout) =
      Orientation.of (some kind) (n.text? .layout) := by
    by_cases hbar : kind = .bar
    · rw [hbars (by rw [hkind, hbar])]
    · exact h.orientation hbar
  rw [horientation]
  rfl

end Readers

end Chart

/-! ## Layouts -/

namespace Layout

open Chart (Orientation SameButEmpty Spec)

section Bars

variable {α : Type} [Scale α] [Written α] (p : Plan α) (t : Theme α) (s : Settings α)

/-- The orientation that the bars of a diagram have. -/
def Diagram.orientation? : Diagram α → Option Orientation
  | .bar chart => some chart.orientation
  | _ => none

/-- Whether a plan lacks what bars require. -/
def Plan.lacksBars (p : Plan α) : Bool :=
  p.labels.isEmpty || (p.datasets 5).isEmpty

theorem barLayout_of_lacking (h : p.lacksBars = true) : barLayout p t s =
    insufficient .bar "labels (601) and at least one dataset (701-705) are required" s :=
  if_pos h

/-- Bars that are drawn have the orientation of their plan. -/
theorem orientation?_barLayout (h : p.lacksBars = false) :
    (barLayout p t s).diagram.orientation? = some p.orientation := by
  have hfull : ¬ (p.labels.isEmpty || (p.datasets 5).isEmpty) = true := by
    rw [show (p.labels.isEmpty || (p.datasets 5).isEmpty) = false from h]
    decide
  unfold barLayout
  simp only
  rw [if_neg hfull]
  rfl

theorem isPlaceholder_barLayout : (barLayout p t s).isPlaceholder = p.lacksBars := by
  cases h : p.lacksBars with
  | true =>
    rw [barLayout_of_lacking p t s h]
    rfl
  | false =>
    have hdrawn := orientation?_barLayout p t s h
    unfold Layout.isPlaceholder
    split
    case h_1 box hbox =>
      rw [hbox] at hdrawn
      cases hdrawn
    case h_2 => rfl

/-- Turning the bars changes a chart exactly if there is one. -/
theorem barLayout_turned_iff {o : Orientation} (ho : o ≠ p.orientation) :
    barLayout { p with orientation := o } t s = barLayout p t s ↔
      (barLayout p t s).isPlaceholder = true := by
  rw [isPlaceholder_barLayout]
  cases h : p.lacksBars with
  | true =>
    rw [barLayout_of_lacking p t s h, barLayout_of_lacking { p with orientation := o } t s h]
    simp
  | false =>
    refine iff_of_false (fun heq => ho ?_) (by simp)
    have hturned := orientation?_barLayout { p with orientation := o } t s h
    rw [heq, orientation?_barLayout p t s h] at hturned
    exact (Option.some.inj hturned).symm

end Bars

section Empty

variable {m : Map} {id : Id} (h : m.get? id = some (.text ""))

section Without

include h

omit h in
theorem text?_layout_without (hid : id ≠ Known.layout.id) :
    (m.without id).text? .layout = m.text? .layout := by
  unfold Map.text? Map.find?
  rw [m.get?_without id, if_neg (Ne.symm hid)]

theorem unsupported_without (s : Settings Float) :
    unsupported ((m.without id).text? .visualizationType) s =
      unsupported (m.text? .visualizationType) s := by
  unfold unsupported
  rw [(Chart.sameButEmpty_without h).read (f := shownType) (by decide +kernel)]

omit h in
theorem ofSpec_bars {spec : Spec} (hkind : spec.kind = .bar) (t : Theme Float) (s : Settings Float) :
    ofSpec spec t s = barLayout (Plan.ofSpec spec) t s := by
  unfold ofSpec ofPlan
  rw [show (Plan.ofSpec spec).kind = .bar from hkind]

/-- Bars with an empty layout text lie, and without it they stand. -/
theorem ofMap?_of_empty_layout (hid : id = Known.layout.id) (hbars : Spec.kindOf m = some .bar)
    (defaultScheme : String) : ∃ spec, Spec.ofMap? defaultScheme m = some spec ∧
      spec.kind = .bar ∧ spec.orientation = .horizontal ∧
        Spec.ofMap? defaultScheme (m.without id) = some { spec with orientation := .vertical } := by
  have hsame := Chart.sameButEmpty_without h
  have htext : m.text? .layout = some "" := by
    unfold Map.text? Map.find?
    rw [← hid, h]
    rfl
  have hnone : (m.without id).text? .layout = none := by
    unfold Map.text? Map.find?
    rw [m.get?_without id, if_pos hid.symm]
    rfl
  refine ⟨Spec.withKind defaultScheme .bar m, ?_, rfl, ?_, ?_⟩
  · unfold Spec.ofMap?
    rw [hbars]
    rfl
  · show Orientation.of (some .bar) (m.text? .layout) = _
    rw [htext]
    decide +kernel
  · unfold Spec.ofMap?
    rw [hsame.kindOf, hbars, Option.map_some, hsame.withKind, hnone]
    rfl

/-- **An empty text is as good as none, but for the layout of bars.** Where a value of a map is an empty
    text, the specification of the map and its layout, under every theme and all settings, are those of
    the map without the value, if and only if the value is not the layout of a bar chart. The layout of
    such a chart is the same only as long as it is a box; otherwise the bars lie, and without the value
    they stand. -/
theorem ofMap_without_iff (t : Theme Float) (s : Settings Float) :
    (Spec.ofMap? s.defaultColorScheme (m.without id) = Spec.ofMap? s.defaultColorScheme m ↔
      ¬ (id = Known.layout.id ∧ Spec.kindOf m = some .bar)) ∧
    (ofMap (m.without id) t s = ofMap m t s ↔
      ¬ (id = Known.layout.id ∧ Spec.kindOf m = some .bar ∧ (ofMap m t s).isPlaceholder = false)) := by
  by_cases hbars : id = Known.layout.id ∧ Spec.kindOf m = some .bar
  · obtain ⟨spec, hspec, hkind, hlying, hwithout⟩ :=
      ofMap?_of_empty_layout h hbars.1 hbars.2 s.defaultColorScheme
    refine ⟨iff_of_false (fun heq => ?_) (not_not.2 hbars), ?_⟩
    · rw [hspec, hwithout] at heq
      have horientation := congrArg Spec.orientation (Option.some.inj heq)
      rw [hlying] at horientation
      cases horientation
    · have hother : Orientation.vertical ≠ (Plan.ofSpec spec).orientation := by
        rw [show (Plan.ofSpec spec).orientation = .horizontal from hlying]
        decide
      have hturned := barLayout_turned_iff (Plan.ofSpec spec) t s hother
      unfold ofMap
      rw [hspec, hwithout]
      simp only
      have hkind' : ({ spec with orientation := .vertical } : Spec).kind = .bar := hkind
      rw [ofSpec_bars hkind, ofSpec_bars hkind']
      refine hturned.trans ?_
      simp [hbars]
  · have hspec : Spec.ofMap? s.defaultColorScheme (m.without id) =
        Spec.ofMap? s.defaultColorScheme m :=
      (Chart.sameButEmpty_without h).ofMap? (fun hkind =>
        text?_layout_without fun hid => hbars ⟨hid, hkind⟩) s.defaultColorScheme
    refine ⟨iff_of_true hspec hbars, iff_of_true ?_ fun hthis => hbars ⟨hthis.1, hthis.2.1⟩⟩
    unfold ofMap
    rw [hspec, unsupported_without h]

end Without

/-- A timeline with an empty layout text. -/
theorem ofMap_without_timeline_layout :
    let m := Map.empty.insertAll
      [(Known.visualizationType.id, .text "Timeline"), (Known.layout.id, .text ""),
       (Known.labels.id, .list [.text "2020", .text "2024"])]
    m.get? Known.layout.id = some (.text "") ∧
      ofMap (m.without Known.layout.id) Theme.classic Settings.standard =
        ofMap m Theme.classic Settings.standard := by
  intro m
  have hempty : m.get? Known.layout.id = some (.text "") := rfl
  have hkind : Spec.kindOf m ≠ some .bar := by decide +kernel
  exact ⟨hempty, (ofMap_without_iff hempty Theme.classic Settings.standard).2.2
    fun hbars => hkind hbars.2.1⟩

/-- Bars with an empty layout text lie. -/
theorem not_ofMap_without : ¬ ∀ (m : Map) (id : Id), m.get? id = some (.text "") →
    ∀ (t : Theme Float) (s : Settings Float),
      Spec.ofMap? s.defaultColorScheme (m.without id) = Spec.ofMap? s.defaultColorScheme m ∧
        ofMap (m.without id) t s = ofMap m t s := by
  intro h
  let m := Map.empty.insertAll
    [(Known.visualizationType.id, .text "Bar Chart"), (Known.layout.id, .text ""),
     (Known.labels.id, .list [.text "a"]), ((Known.dataset 1).id, .list [.number 1])]
  have hsame := (h m Known.layout.id rfl Theme.classic Settings.standard).2
  have horientation := congrArg (fun l => l.diagram.orientation?) hsame
  have hlying : (ofMap m Theme.classic Settings.standard).diagram.orientation? =
      some .horizontal := rfl
  have hstanding : (ofMap (m.without Known.layout.id) Theme.classic
      Settings.standard).diagram.orientation? = some .vertical := rfl
  rw [hlying, hstanding] at horientation
  cases horientation

end Empty

end Layout

end Infochart
