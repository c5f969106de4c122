import Infochart.Proofs.Drawing.Measured
import Infochart.Proofs.Layout.Lines
import Infochart.Proofs.Property.Size

/-!
# Which descriptions are drawn without undefined numbers

What is read from a text is a moderate plan: its amounts are finite and its lists are no longer than the
text allows. So under the classic theme and the standard settings every layout is defined but those of
line charts whose last step is out of range, and a defined layout is drawn with numbers only. Of the two
functions of the circle this needs one law, that they stay between minus one and one; the layout is
therefore stated with such functions in place of the built-in ones.
-/

namespace Infochart

namespace Property

theorem isFinite_finiteOrZero (x : Float) : Decimal.isFinite (finiteOrZero x) = true := by
  unfold finiteOrZero
  split
  · assumption
  · decide +kernel

/-- **Every scalar counts as a finite number.** -/
theorem Scalar.isFinite_amount (a : Scalar) : Decimal.isFinite a.amount = true := by
  cases a with
  | number x => exact isFinite_finiteOrZero x
  | text s => exact isFinite_finiteOrZero _

end Property

namespace Layout

open Property (Map)

/-! ## Functions of the circle -/

/-- The layout of a map with functions of the circle in place of the built-in ones. -/
def ofMapWith (cos sin : Float → Float) (m : Map) (t : Theme Float) (s : Settings Float) :
    Layout Float :=
  letI := circled cos sin
  match Chart.Spec.ofMap? s.defaultColorScheme m with
  | some spec => ofPlan (Plan.ofSpec spec) t s
  | none => unsupported (m.text? .visualizationType) s

theorem ofMapWith_builtin : ofMapWith Float.cos Float.sin = ofMap := rfl

/-! ## The plan of a text -/

section

variable {csv : String} (hcsv : csv.length < 2 ^ 63)
include hcsv

theorem length_listTexts_le (k : Property.Known) :
    (Chart.listTexts (Property.read csv).map k).length ≤ 2 ^ 64 := by
  unfold Chart.listTexts
  rw [List.length_map]
  cases hlist : (Property.read csv).map.list? k with
  | none => exact Nat.zero_le _
  | some items =>
    have hle := Property.length_le_of_list? hlist
    exact hle.trans (by omega)

/-- **The plan of a text that fits into memory is moderate.** -/
theorem moderate_ofSpec (cos sin : Float → Float) {scheme : String} {spec : Chart.Spec}
    (hspec : Chart.Spec.ofMap? scheme (Property.read csv).map = some spec) :
    letI := circled cos sin
    (Plan.ofSpec spec).Moderate := by
  obtain ⟨kind, -, rfl⟩ := Option.map_eq_some_iff.1 hspec
  have hseries : ∀ d ∈ (Plan.ofSpec (Chart.Spec.withKind scheme kind (Property.read csv).map)).series,
      ∃ i items, (Property.read csv).map.list? (.dataset i) = some items ∧
        d.entries = items.map fun x => ⟨x.amount, x.shown⟩ := by
    intro d hd
    obtain ⟨e, he, rfl⟩ := List.mem_map.1 hd
    obtain ⟨i, -, hi⟩ := List.mem_filterMap.1 he
    obtain ⟨items, hitems, rfl⟩ := Option.map_eq_some_iff.1 hi
    exact ⟨i, items, hitems, rfl⟩
  let circle := circled cos sin
  refine ⟨length_listTexts_le hcsv .labels, fun d hd => ?_, fun d hd => ?_⟩
  · obtain ⟨i, items, hitems, hentries⟩ := hseries d hd
    have hle := Property.length_le_of_list? hitems
    rw [hentries, List.length_map]
    exact hle.trans (by omega)
  · obtain ⟨i, items, -, hentries⟩ := hseries d hd
    intro x hx
    unfold Series.amounts at hx
    rw [hentries, List.map_map] at hx
    obtain ⟨a, -, rfl⟩ := List.mem_map.1 hx
    exact a.isFinite_amount

end

/-! ## Layouts and drawings -/

/-- Whether all measures of a drawing are numbers: what is written for numbers that are not finite stands
    in none of them. -/
def DrawsNumbers {α : Type} [Scale α] [Written α] (t : Theme α) (l : Layout α) : Prop :=
  ∀ a ∈ Drawing.allAttributes (Drawing.ofLayout t l), a.name ∈ Drawing.measures →
    ∀ word ∈ ["NaN", "inf"], Text.contains word.toList a.value.toList = false

section Circle

variable {cos sin : Float → Float} (hcos : StaysInUnit cos) (hsin : StaysInUnit sin) {csv : String}
  (hcsv : csv.length < 2 ^ 63) {t : Theme Float} {s : Settings Float}
  (ht : @Theme.Moderate Float (circled cos sin) (binary64 hcos hsin) t)
  (hs : @Settings.Moderate Float (circled cos sin) (binary64 hcos hsin) s)

include hcsv ht hs in
theorem defined_ofMapWith_iff :
    letI := circled cos sin
    (ofMapWith cos sin (Property.read csv).map t s).Defined ↔
      (ofMapWith cos sin (Property.read csv).map t s).diagram.EndsDefined := by
  let circle := circled cos sin
  let laws := binary64 hcos hsin
  unfold ofMapWith
  cases hspec : Chart.Spec.ofMap? s.defaultColorScheme (Property.read csv).map with
  | none =>
    refine ⟨fun _ c hc => ?_, fun _ => ?_⟩
    · cases hc
    · exact defined_placeholder hs (hs.canvas .bar) _ _
  | some spec =>
    exact defined_ofPlan_iff (moderate_ofSpec hcsv cos sin hspec) ht hs

include ht in
theorem drawsNumbers_of_defined {l : Layout Float} :
    letI := circled cos sin
    l.Defined → DrawsNumbers t l := by
  let circle := circled cos sin
  let laws := binary64 hcos hsin
  intro hl
  have hnotice : t.NoticeDefined :=
    (ht.fontSize.add within_literal).isFinite
  have hfigures := Drawing.writesFigures_circled cos sin
  exact Drawing.not_contains_ofLayout hnotice hl

end Circle

/-! ## The classic theme with the standard settings -/

section Standard

variable (cos sin : Float → Float) (csv : String)

/-- The layout of a text under the classic theme and the standard settings. -/
def ofText : Layout Float :=
  letI := circled cos sin
  ofMapWith cos sin (Property.read csv).map Theme.classic Settings.standard

theorem ofText_builtin :
    ofText Float.cos Float.sin csv =
      ofMap (Property.read csv).map Theme.classic Settings.standard := rfl

/-- Whether every number of the layout of a text is finite and every measure of its drawing is a
    number. -/
def HasNumbersOnly : Prop :=
  letI := circled cos sin
  (ofText cos sin csv).Defined ∧ DrawsNumbers Theme.classic (ofText cos sin csv)

end Standard

/-- **Exactly the line charts with an infinite last step are undefined.** With functions of the circle
    that stay between minus one and one, a text has numbers only if and only if its chart is no line
    chart or the last step of the axis, the least amount and the range above it, is finite. -/
theorem hasNumbersOnly_iff {cos sin : Float → Float} (hcos : StaysInUnit cos)
    (hsin : StaysInUnit sin) {csv : String} (hcsv : csv.length < 2 ^ 63) :
    HasNumbersOnly cos sin csv ↔ (ofText cos sin csv).diagram.EndsDefined := by
  let circle := circled cos sin
  let laws := binary64 hcos hsin
  have hlayout := defined_ofMapWith_iff hcos hsin hcsv (moderate_classic (α := Float))
    (moderate_standard (α := Float))
  constructor
  · intro h
    exact hlayout.1 h.1
  · intro h
    have hdefined := hlayout.2 h
    exact ⟨hdefined, drawsNumbers_of_defined hcos hsin moderate_classic hdefined⟩

/-- The functions of the circle at both ends of its horizontal diameter. A pie of one slice asks for no
    more of them. -/
def cosAtEnds (x : Float) : Float :=
  if x ≤ 0 then 1 else -1

def sinAtEnds (x : Float) : Float :=
  if x ≤ 0 then 0 else 1.2246467991473532e-16

theorem staysInUnit_cosAtEnds : StaysInUnit cosAtEnds := by
  have hends : ((-1 : Float) ≤ 1 ∧ (1 : Float) ≤ 1) ∧ (-1 : Float) ≤ -1 ∧ (-1 : Float) ≤ 1 := by
    decide +kernel
  intro x _
  unfold cosAtEnds
  split
  · exact hends.1
  · exact hends.2

theorem staysInUnit_sinAtEnds : StaysInUnit sinAtEnds := by
  have hends : ((-1 : Float) ≤ 0 ∧ (0 : Float) ≤ 1) ∧ (-1 : Float) ≤ 1.2246467991473532e-16 ∧
      (1.2246467991473532e-16 : Float) ≤ 1 := by
    decide +kernel
  intro x _
  unfold sinAtEnds
  split
  · exact hends.1
  · exact hends.2

/-- A pie of one slice, and a line between two large amounts of opposite signs. -/
theorem hasNumbersOnly_of_pie_and_line :
    HasNumbersOnly cosAtEnds sinAtEnds "101,Pie Chart\n601,[\"a\"]\n701,[1]" ∧
      HasNumbersOnly cosAtEnds sinAtEnds
        "101,Line Chart\n601,[\"a\",\"b\"]\n701,[1e308,-1e307]" := by
  constructor
  · exact (hasNumbersOnly_iff staysInUnit_cosAtEnds staysInUnit_sinAtEnds (by decide)).2
      (by decide +kernel)
  · exact (hasNumbersOnly_iff staysInUnit_cosAtEnds staysInUnit_sinAtEnds (by decide)).2
      (by decide +kernel)

/-- Two opposite amounts whose distance is out of range: the path of their line has no place for the
    greater one. -/
theorem not_hasNumbersOnly :
    ¬ ∀ csv : String, csv.length < 2 ^ 63 → HasNumbersOnly Float.cos Float.sin csv := by
  intro h
  obtain ⟨-, hdraws⟩ := h "101,Line Chart\n601,[\"a\",\"b\"]\n701,[1e308,-1e308]" (by decide)
  have hpath : (Drawing.allAttributes (Drawing.ofLayout Theme.classic (ofText Float.cos Float.sin
      "101,Line Chart\n601,[\"a\",\"b\"]\n701,[1e308,-1e308]"))).any (fun a =>
        decide (a.name ∈ Drawing.measures) && Text.contains "NaN".toList a.value.toList) = true := by
    decide +kernel
  obtain ⟨a, ha, hnan⟩ := List.any_eq_true.1 hpath
  rw [Bool.and_eq_true, decide_eq_true_iff] at hnan
  have hnumber := hdraws a ha hnan.1 "NaN" (by decide)
  rw [hnumber] at hnan
  cases hnan.2

end Layout

end Infochart
