import Infochart.Proofs.Config.Literals
import Infochart.Proofs.Layout.Binary64

/-!
# The ranges of a configuration

Reading a settings file keeps the sizes of canvases positive, the margin from being negative, ticks and
rings at one or more and the opacity between zero and one. What it does not ask is whether a number is
finite: an infinite size is positive, an infinite margin is not negative, and an undefined opacity is
neither below zero nor above one. `isSane_iff` says exactly which files lead to such numbers.
-/

namespace Infochart.Config

open Decimal (isFinite)
open Layout (Canvas)

/-! ## Ranges -/

/-- A number that is infinite above zero. -/
def IsEndless (x : Float) : Prop :=
  Decimal.Binary.ofFloat x = .infinite false

def IsUndefined (x : Float) : Prop :=
  Decimal.Binary.ofFloat x = .undefined

instance (x : Float) : Decidable (IsEndless x) :=
  inferInstanceAs (Decidable (_ = _))

instance (x : Float) : Decidable (IsUndefined x) :=
  inferInstanceAs (Decidable (_ = _))

structure HasFiniteFonts (t : Theme Float) : Prop where
  text : isFinite t.fontSize = true
  title : isFinite t.titleFontSize = true
  small : isFinite t.smallFontSize = true

/-- What every configuration is that a text describes. -/
structure IsGuarded (c : Config) : Prop where
  width (kind : Chart.Kind) : 0 < (c.settings.canvas kind).width
  height (kind : Chart.Kind) : 0 < (c.settings.canvas kind).height
  margin : 0 ≤ c.settings.margin
  ticks : 1 ≤ c.settings.tickCount
  rings : 1 ≤ c.settings.radar.rings
  opacity : 0 ≤ c.settings.radar.fillOpacity ∧ c.settings.radar.fillOpacity ≤ 1 ∨
    IsUndefined c.settings.radar.fillOpacity

/-- What a configuration should be: within its ranges, and with finite numbers. -/
structure IsSane (c : Config) : Prop where
  width (kind : Chart.Kind) : 0 < (c.settings.canvas kind).width ∧
    isFinite (c.settings.canvas kind).width = true
  height (kind : Chart.Kind) : 0 < (c.settings.canvas kind).height ∧
    isFinite (c.settings.canvas kind).height = true
  margin : 0 ≤ c.settings.margin ∧ isFinite c.settings.margin = true
  ticks : 1 ≤ c.settings.tickCount
  rings : 1 ≤ c.settings.radar.rings
  opacity : 0 ≤ c.settings.radar.fillOpacity ∧ c.settings.radar.fillOpacity ≤ 1
  fonts : HasFiniteFonts c.theme

/-! ## Single numbers -/

theorem pos_of_mem_counted {o : Option Float} {x : Float} (h : x ∈ counted o) : 0 < x := by
  obtain ⟨-, hpos⟩ := Option.filter_eq_some_iff.1 h
  exact of_decide_eq_true hpos

/-- An infinite size passes for a positive one. -/
theorem mem_counted_of_endless {o : Option Float} {x : Float} (hx : x ∈ o) (h : IsEndless x) :
    x ∈ counted o := by
  refine Option.filter_eq_some_iff.2 ⟨hx, decide_eq_true ?_⟩
  exact (Decimal.gt_of_infinite h Decimal.value?_zero).1

theorem isFinite_iff_of_pos {x : Float} (h : 0 < x) : isFinite x = true ↔ ¬ IsEndless x :=
  Decimal.isFinite_iff_of_lt Decimal.value?_zero h

theorem not_isFinite_of_endless {x : Float} (h : IsEndless x) : ¬ isFinite x = true := by
  unfold isFinite
  rw [h]
  exact Bool.false_ne_true

/-- A number that is cut at zero is not negative, and infinite only if it was. -/
theorem greater_zero (x : Float) :
    0 ≤ Layout.greater x 0 ∧ (isFinite (Layout.greater x 0) = true ↔ ¬ IsEndless x) := by
  have hzero : (0 : Float) ≤ 0 :=
    (Decimal.le_iff_of_value Decimal.value?_zero Decimal.value?_zero).2 le_rfl
  unfold Layout.greater
  split
  case isTrue h => exact ⟨Decimal.le_of_lt h, isFinite_iff_of_pos h⟩
  case isFalse h =>
    refine ⟨hzero, iff_of_true (Decimal.isFinite_iff.2 ⟨0, Decimal.value?_zero⟩) fun hendless => ?_⟩
    exact h (Decimal.gt_of_infinite hendless Decimal.value?_zero).1

/-- A number that is neither below zero nor above one is between them, unless it is undefined. -/
theorem between_iff {x : Float} (hlow : ¬ x < 0) (hhigh : ¬ 1 < x) :
    0 ≤ x ∧ x ≤ 1 ↔ ¬ IsUndefined x := by
  unfold IsUndefined
  cases hx : Decimal.Binary.ofFloat x with
  | undefined =>
    have hunordered := Decimal.unordered_of_undefined hx 0
    exact iff_of_false (fun h => hunordered.not_ge h.1) fun h => h rfl
  | infinite negative =>
    cases negative with
    | false => exact absurd (Decimal.gt_of_infinite hx Layout.value?_natCast_one).1 hhigh
    | true => exact absurd (Decimal.lt_of_infinite hx Decimal.value?_zero).1 hlow
  | finite negative m e =>
    have hv : Decimal.value? x = some _ := congrArg Decimal.Binary.value? hx
    rw [Decimal.lt_iff_of_value hv Decimal.value?_zero, not_lt] at hlow
    rw [Decimal.lt_iff_of_value Layout.value?_natCast_one hv, not_lt] at hhigh
    rw [Decimal.le_iff_of_value Decimal.value?_zero hv,
      Decimal.le_iff_of_value hv Layout.value?_natCast_one]
    exact iff_of_true ⟨hlow, hhigh⟩ Decimal.Binary.noConfusion

theorem clampUnit_between_iff (x : Float) :
    0 ≤ Layout.clampUnit x ∧ Layout.clampUnit x ≤ 1 ↔ ¬ IsUndefined x := by
  have hzero : (0 : Float) ≤ 0 ∧ (0 : Float) ≤ 1 := by decide +kernel
  have hone : (0 : Float) ≤ 1 ∧ (1 : Float) ≤ 1 := by decide +kernel
  unfold Layout.clampUnit
  split
  case isTrue h =>
    exact iff_of_true hzero fun hx => (Decimal.unordered_of_undefined hx 0).not_lt h
  case isFalse hlow =>
    split
    case isTrue h =>
      exact iff_of_true hone fun hx => (Decimal.unordered_of_undefined hx 1).not_gt h
    case isFalse hhigh => exact between_iff hlow hhigh

/-- An undefined number stays so. -/
theorem clampUnit_of_undefined {x : Float} (h : IsUndefined x) : Layout.clampUnit x = x := by
  unfold Layout.clampUnit
  rw [if_neg (Decimal.unordered_of_undefined h 0).not_lt,
    if_neg (Decimal.unordered_of_undefined h 1).not_gt]

/-! ## What overrides lead to -/

/-- Whether no measure that is set is infinite above zero and counts, and no opacity is undefined. -/
def Overrides.HasFiniteMeasures (o : Overrides) : Prop :=
  (∀ e ∈ o.canvas, Chart.Kind.resolve e.1 ≠ none →
    (∀ x ∈ e.2.width, ¬ IsEndless x) ∧ ∀ x ∈ e.2.height, ¬ IsEndless x) ∧
  (∀ x ∈ o.margin, ¬ IsEndless x) ∧
  ∀ x ∈ o.radar.fillOpacity, ¬ IsUndefined x

/-- Whether all font sizes that are set are finite. -/
def ThemeOverrides.HasFiniteSizes (o : ThemeOverrides) : Prop :=
  (∀ x ∈ o.fontSize, isFinite x = true) ∧ (∀ x ∈ o.titleFontSize, isFinite x = true) ∧
    ∀ x ∈ o.smallFontSize, isFinite x = true

instance (o : Overrides) : Decidable o.HasFiniteMeasures :=
  inferInstanceAs (Decidable (_ ∧ _))

instance (o : ThemeOverrides) : Decidable o.HasFiniteSizes :=
  inferInstanceAs (Decidable (_ ∧ _))

theorem of_getD {β : Type} {P : β → Prop} {o : Option β} {b : β} (h : ∀ x ∈ o, P x) (hb : P b) :
    P (o.getD b) := by
  cases o with
  | none => exact hb
  | some x => exact h x rfl

theorem of_getD_map {β γ : Type} {P : γ → Prop} {f : β → γ} {o : Option β} {c : γ}
    (h : ∀ x ∈ o, P (f x)) (hc : P c) : P ((o.map f).getD c) := by
  cases o with
  | none => exact hc
  | some x => exact h x rfl

theorem standard_canvas (kind : Chart.Kind) :
    (0 < ((Layout.Settings.standard : Layout.Settings Float).canvas kind).width ∧
      isFinite (Layout.Settings.standard.canvas kind).width = true) ∧
    0 < ((Layout.Settings.standard : Layout.Settings Float).canvas kind).height ∧
      isFinite (Layout.Settings.standard.canvas kind).height = true := by
  cases kind <;> decide +kernel

theorem standard_margin :
    isFinite (Layout.Settings.standard : Layout.Settings Float).margin = true := by
  decide +kernel

theorem standard_opacity :
    0 ≤ (Layout.Settings.standard : Layout.Settings Float).radar.fillOpacity ∧
      (Layout.Settings.standard : Layout.Settings Float).radar.fillOpacity ≤ 1 := by
  decide +kernel

/-- What counts of a measure that is not infinite is finite. -/
theorem isFinite_of_counted {m : Option Float} (h : ∀ x ∈ m, ¬ IsEndless x) {x : Float}
    (hx : x ∈ counted m) : isFinite x = true :=
  (isFinite_iff_of_pos (pos_of_mem_counted hx)).2 (h x (Option.filter_eq_some_iff.1 hx).1)

/-! ## Themes -/

theorem hasFiniteFonts_classic : HasFiniteFonts .classic := by
  constructor <;> decide +kernel

theorem hasFiniteFonts_modern : HasFiniteFonts .modern := by
  constructor <;> decide +kernel

/-- The fonts of a theme that is given by a name, and of the one in place of an unknown one. -/
theorem hasFiniteFonts_named (name : Option String) :
    HasFiniteFonts ((name.bind Theme.ofName?).getD .classic) := by
  refine of_getD (fun t ht => ?_) hasFiniteFonts_classic
  obtain ⟨n, -, hn⟩ := Option.bind_eq_some_iff.1 ht
  unfold Theme.ofName? at hn
  split at hn
  case h_1 =>
    cases hn
    exact hasFiniteFonts_modern
  case h_5 => cases hn
  all_goals
    cases hn
    exact hasFiniteFonts_classic

theorem hasFiniteFonts_apply {v : ThemeOverrides} (h : v.HasFiniteSizes) (t : Theme Float)
    (ht : HasFiniteFonts t) : HasFiniteFonts (v.apply t) where
  text := of_getD h.1 ht.text
  title := of_getD h.2.1 ht.title
  small := of_getD h.2.2 ht.small

theorem hasFiniteSizes_of_apply {v : ThemeOverrides} {t : Theme Float}
    (h : HasFiniteFonts (v.apply t)) : v.HasFiniteSizes := by
  obtain ⟨htext, htitle, hsmall⟩ := h
  unfold ThemeOverrides.apply at htext htitle hsmall
  refine ⟨fun x hx => ?_, fun x hx => ?_, fun x hx => ?_⟩
  · rwa [Option.mem_def.1 hx] at htext
  · rwa [Option.mem_def.1 hx] at htitle
  · rwa [Option.mem_def.1 hx] at hsmall

/-! ## Configurations -/

section Apply

variable (o : Overrides)

/-- The canvases are those that the entries for them leave, and the other settings do not depend on
    them. -/
theorem settings_apply : (o.apply standard).settings =
    { ((o.visit []).apply standard).settings with
      canvas := (o.canvas.foldl applyCanvas Layout.Settings.standard).canvas } := by
  show o.applySettings Layout.Settings.standard = _
  unfold Overrides.applySettings
  simp only
  rw [foldl_applyCanvas]
  rfl

/-- **All guards hold, whatever is set.** -/
theorem isGuarded_apply : IsGuarded (o.apply standard) := by
  have hcanvas (kind : Chart.Kind) :
      0 < ((o.canvas.foldl applyCanvas Layout.Settings.standard).canvas kind).width ∧
        0 < ((o.canvas.foldl applyCanvas Layout.Settings.standard).canvas kind).height := by
    have hstandard := standard_canvas kind
    refine of_canvas_foldl (P := fun c => 0 < c.width ∧ 0 < c.height)
      ⟨hstandard.1.1, hstandard.2.1⟩ fun e _ _ c hc => ?_
    exact ⟨of_getD (fun x hx => pos_of_mem_counted hx) hc.1,
      of_getD (fun x hx => pos_of_mem_counted hx) hc.2⟩
  have hopacity (x : Float) : 0 ≤ Layout.clampUnit x ∧ Layout.clampUnit x ≤ 1 ∨
      IsUndefined (Layout.clampUnit x) := by
    by_cases hx : IsUndefined x
    · rw [clampUnit_of_undefined hx]
      exact .inr hx
    · exact .inl ((clampUnit_between_iff x).2 hx)
  have hmargin : (0 : Float) ≤ (Layout.Settings.standard : Layout.Settings Float).margin := by
    decide +kernel
  have hfive : 1 ≤ 5 := by decide
  constructor
  case width => exact fun kind => (hcanvas kind).1
  case height => exact fun kind => (hcanvas kind).2
  case margin =>
    rw [settings_apply]
    exact of_getD_map (fun x _ => (greater_zero x).1) hmargin
  case ticks =>
    rw [settings_apply]
    exact of_getD_map (fun n _ => le_max_right n 1) hfive
  case rings =>
    rw [settings_apply]
    exact of_getD_map (fun n _ => le_max_right n 1) hfive
  case opacity =>
    rw [settings_apply]
    exact of_getD_map (P := fun x => 0 ≤ x ∧ x ≤ 1 ∨ IsUndefined x) (fun x _ => hopacity x)
      (.inl standard_opacity)

variable {o}

/-- Finite numbers in the file leave finite numbers in the configuration. -/
theorem isSane_apply (hmeasures : o.HasFiniteMeasures) (hsizes : o.themeVariables.HasFiniteSizes) :
    IsSane (o.apply standard) := by
  obtain ⟨hcanvas, hmargin, hopacity⟩ := hmeasures
  have hguarded := isGuarded_apply o
  have hfinite (kind : Chart.Kind) :
      isFinite ((o.canvas.foldl applyCanvas Layout.Settings.standard).canvas kind).width = true ∧
        isFinite ((o.canvas.foldl applyCanvas Layout.Settings.standard).canvas kind).height = true := by
    have hstandard := standard_canvas kind
    refine of_canvas_foldl (P := fun c => isFinite c.width = true ∧ isFinite c.height = true)
      ⟨hstandard.1.2, hstandard.2.2⟩ fun e he hk c hc => ?_
    obtain ⟨hwidth, hheight⟩ := hcanvas e he (by simp [hk])
    constructor
    · exact of_getD (fun x hx => isFinite_of_counted hwidth hx) hc.1
    · exact of_getD (fun x hx => isFinite_of_counted hheight hx) hc.2
  constructor
  case width => exact fun kind => ⟨hguarded.width kind, (hfinite kind).1⟩
  case height => exact fun kind => ⟨hguarded.height kind, (hfinite kind).2⟩
  case margin =>
    refine ⟨hguarded.margin, ?_⟩
    rw [settings_apply]
    exact of_getD_map (P := fun x => isFinite x = true)
      (fun x hx => (greater_zero x).2.2 (hmargin x hx)) standard_margin
  case ticks => exact hguarded.ticks
  case rings => exact hguarded.rings
  case opacity =>
    rw [settings_apply]
    exact of_getD_map (P := fun x => 0 ≤ x ∧ x ≤ 1)
      (fun x hx => (clampUnit_between_iff x).2 (hopacity x hx)) standard_opacity
  case fonts => exact hasFiniteFonts_apply hsizes _ (hasFiniteFonts_named _)

end Apply

/-! ## Records without words for numbers -/

theorem not_isEndless_of_isFinite {x : Float} (h : isFinite x = true) : ¬ IsEndless x := by
  intro hendless
  exact not_isFinite_of_endless hendless h

theorem not_isUndefined_of_isFinite {x : Float} (h : isFinite x = true) : ¬ IsUndefined x := by
  intro hundefined
  unfold isFinite at h
  rw [show Decimal.Binary.ofFloat x = .undefined from hundefined] at h
  cases h

theorem overrides_of_isFinite {m : Manner} {n : Node} (h : n.IsFinite) {o : Overrides}
    (ho : overrides m n = some o) :
    o.HasFiniteMeasures ∧ o.themeVariables.HasWrittenSizes := by
  unfold overrides at ho
  obtain ⟨field, hfield, ho⟩ := Option.bind_eq_some_iff.1 ho
  obtain ⟨_, -, ho⟩ := Option.bind_eq_some_iff.1 ho
  obtain ⟨vars, hvars, ho⟩ := Option.bind_eq_some_iff.1 ho
  obtain ⟨canvas, hcanvas, ho⟩ := Option.bind_eq_some_iff.1 ho
  obtain ⟨margin, hmargin, ho⟩ := Option.bind_eq_some_iff.1 ho
  iterate 4 obtain ⟨_, -, ho⟩ := Option.bind_eq_some_iff.1 ho
  obtain ⟨radar, hradar, ho⟩ := Option.bind_eq_some_iff.1 ho
  iterate 2 obtain ⟨_, -, ho⟩ := Option.bind_eq_some_iff.1 ho
  cases ho
  refine ⟨⟨fun e he _ => ?_, fun x hx => ?_, fun x hx => ?_⟩, ?_⟩
  · have hentries := of_getD (o := canvas) (b := [])
      (P := fun entries => ∀ e ∈ entries, (∀ x ∈ e.2.width, isFinite x = true) ∧
        ∀ x ∈ e.2.height, isFinite x = true)
      (of_optional hcanvas fun _ => canvasOverrides_isFinite (h.field hfield _))
      (fun e he => by cases he)
    obtain ⟨hwidth, hheight⟩ := hentries e he
    exact ⟨fun x hx => not_isEndless_of_isFinite (hwidth x hx),
      fun x hx => not_isEndless_of_isFinite (hheight x hx)⟩
  · exact not_isEndless_of_isFinite ((h.field hfield _).optional_real hmargin x hx)
  · have hopacity := of_getD (o := radar) (b := {})
      (P := fun r => ∀ x ∈ r.fillOpacity, isFinite x = true)
      (of_optional hradar fun _ => radarOverrides_isFinite (h.field hfield _))
      (fun x hx => by cases hx)
    exact not_isUndefined_of_isFinite (hopacity x hx)
  · refine of_getD (of_optional hvars fun _ => themeOverrides_hasWrittenSizes (h.field hfield _)) ?_
    constructor <;> intro x hx <;> cases hx

/-! ## Texts -/

section Texts

variable {s : String} {o : Overrides} (ho : Overrides.ofText? s.toList = some o)
include ho

theorem mayDescribe_apply : MayDescribe s (o.apply standard) :=
  ⟨o, ho, o.canvas, .refl _, rfl⟩

theorem isSane_of_mayDescribe (hmeasures : o.HasFiniteMeasures)
    (hsizes : o.themeVariables.HasFiniteSizes) {c : Config} (hc : MayDescribe s c) : IsSane c := by
  obtain ⟨o', ho', canvas, hperm, rfl⟩ := hc
  cases ho.symm.trans ho'
  refine isSane_apply ⟨fun e he => ?_, hmeasures.2⟩ hsizes
  exact hmeasures.1 e (hperm.mem_iff.1 he)

/-- If no order of the entries leads to anything infinite or undefined, then no entry holds it. -/
theorem hasFiniteMeasures_of_isSane (h : ∀ c, MayDescribe s c → IsSane c) : o.HasFiniteMeasures := by
  refine ⟨fun e he hknown => ?_, fun x hx => ?_, fun x hx => ?_⟩
  · obtain ⟨kind, hk⟩ := Option.ne_none_iff_exists'.1 hknown
    obtain ⟨entries, hperm⟩ := exists_perm_last he
    have hsane := h _ ⟨o, ho, _, hperm, rfl⟩
    obtain ⟨before, hbefore⟩ := canvas_last (s := Layout.Settings.standard) entries hk
    have hcanvas : ((o.visit (entries ++ [e])).apply standard).settings.canvas kind =
        e.2.apply before := by
      rw [settings_apply]
      exact hbefore
    constructor
    · intro x hx hendless
      have hwidth := (hsane.width kind).2
      rw [hcanvas, CanvasOverride.apply_eq, mem_counted_of_endless hx hendless] at hwidth
      exact not_isFinite_of_endless hendless hwidth
    · intro x hx hendless
      have hheight := (hsane.height kind).2
      rw [hcanvas, CanvasOverride.apply_eq, mem_counted_of_endless hx hendless] at hheight
      exact not_isFinite_of_endless hendless hheight
  · have hmargin := (h _ (mayDescribe_apply ho)).margin.2
    rw [settings_apply] at hmargin
    have hcut : ((o.visit []).apply standard).settings.margin = Layout.greater x 0 :=
      congrArg (fun m : Option Float => (m.map fun x => Layout.greater x 0).getD _) hx
    exact (greater_zero x).2.1 (hcut ▸ hmargin)
  · have hopacity := (h _ (mayDescribe_apply ho)).opacity
    rw [settings_apply] at hopacity
    have hclamped : ((o.visit []).apply standard).settings.radar.fillOpacity = Layout.clampUnit x :=
      congrArg (fun m : Option Float => (m.map Layout.clampUnit).getD _) hx
    exact (clampUnit_between_iff x).1 (hclamped ▸ hopacity)

omit ho in
/-- A text in the strict format, and one in the relaxed format without a word in place of a number. -/
theorem ofText?_of_isFinite (ho : Overrides.ofText? s.toList = some o)
    (h : ((strictNode? s.toList).bind (overrides strict)).isSome = true ∨ ¬ HasWord s.toList) :
    o.HasFiniteMeasures ∧ o.themeVariables.HasWrittenSizes := by
  unfold Overrides.ofText? at ho
  split at ho
  case h_1 hstrict =>
    cases ho
    obtain ⟨n, hn, hread⟩ := Option.bind_eq_some_iff.1 hstrict
    exact overrides_of_isFinite (isFinite_strictNode hn) hread
  case h_2 hnot =>
    rw [hnot] at h
    obtain ⟨n, hn, hread⟩ := Option.bind_eq_some_iff.1 ho
    exact overrides_of_isFinite (isFinite_relaxedNode hn (h.resolve_left Bool.false_ne_true)) hread

/-- **A text leads to a sane configuration exactly if what it sets is finite.** Of a text that can be read
    every configuration that it may describe is within all ranges, as far as these can be decided by
    comparing. They are all sane, that is within the ranges and with finite numbers, if and only if no
    measure that is set is infinite above zero, no opacity undefined, and no font size either. In the strict
    format, and in the relaxed one without a word for an infinity or for an undefined number, only a font
    size that is written as a text can be so. -/
theorem isSane_iff :
    ofText? s = some (o.apply standard) ∧ MayDescribe s (o.apply standard) ∧
    (∀ c, MayDescribe s c → IsGuarded c) ∧
    ((∀ c, MayDescribe s c → IsSane c) ↔ o.HasFiniteMeasures ∧ o.themeVariables.HasFiniteSizes) ∧
    (((strictNode? s.toList).bind (overrides strict)).isSome = true ∨ ¬ HasWord s.toList →
      o.HasFiniteMeasures ∧ o.themeVariables.HasWrittenSizes) := by
  refine ⟨ofText?_eq ho, mayDescribe_apply ho, ?_, ⟨fun h => ?_, fun h c hc => ?_⟩,
    ofText?_of_isFinite ho⟩
  · rintro c ⟨o', -, canvas, -, rfl⟩
    exact isGuarded_apply (o'.visit canvas)
  · exact ⟨hasFiniteMeasures_of_isSane ho h,
      hasFiniteSizes_of_apply (h _ (mayDescribe_apply ho)).fonts⟩
  · exact isSane_of_mayDescribe ho h.1 h.2 hc

end Texts

/-- A text in the relaxed format whose numbers are out of range but finite. -/
theorem isSane_of_cut :
    let s := "\x7bcanvas: \x7bbar: \x7bwidth: -1, height: 300\x7d\x7d, margin: -5, tickCount: 0, " ++
      "radar: \x7brings: 0, fillOpacity: 7\x7d, themeVariables: \x7bfontSize: '14px'\x7d\x7d"
    ∃ c, ofText? s = some c ∧ IsSane c := by
  intro s
  obtain ⟨o, ho, hfinite⟩ := @exists_overrides_of_any s
    (fun o => decide o.HasFiniteMeasures && decide o.themeVariables.HasFiniteSizes) (by decide +kernel)
  rw [Bool.and_eq_true, decide_eq_true_iff, decide_eq_true_iff] at hfinite
  obtain ⟨hread, hdescribes, -, hsane, -⟩ := isSane_iff ho
  exact ⟨_, hread, hsane.2 hfinite _ hdescribes⟩

/-- A text with a configuration that a test finds, which no sane one passes. -/
theorem exists_not_isSane {s : String} {P : Config → Bool} (hany : (ofText? s).any P = true)
    (hsane : ∀ c, IsSane c → P c = false) : ∃ c, ofText? s = some c ∧ ¬ IsSane c := by
  rw [Option.any_eq_true] at hany
  obtain ⟨c, hc, hpass⟩ := hany
  refine ⟨c, hc, fun hc => ?_⟩
  rw [hsane c hc] at hpass
  cases hpass

/-- An infinite width and an undefined opacity in the relaxed format, and a font size that names an
    infinity in the strict one. -/
theorem not_isSane_of_word :
    (∃ c, ofText? "\x7bcanvas: \x7bbar: \x7bwidth: Infinity\x7d\x7d\x7d" = some c ∧ ¬ IsSane c) ∧
    (∃ c, ofText? "\x7bradar: \x7bfillOpacity: NaN\x7d\x7d" = some c ∧ ¬ IsSane c) ∧
    ∃ c, ofText? "\x7b\"themeVariables\": \x7b\"fontSize\": \"inf\"\x7d\x7d" = some c ∧
      ¬ IsSane c := by
  refine ⟨?_, ?_, ?_⟩
  · apply exists_not_isSane (P := fun c => !isFinite (c.settings.canvas .bar).width)
    · decide +kernel
    · intro c hsane
      rw [(hsane.width .bar).2, Bool.not_true]
  · apply exists_not_isSane (P := fun c => !decide (0 ≤ c.settings.radar.fillOpacity))
    · decide +kernel
    · intro c hsane
      rw [decide_eq_true hsane.opacity.1, Bool.not_true]
  · apply exists_not_isSane (P := fun c => !isFinite c.theme.fontSize)
    · decide +kernel
    · intro c hsane
      rw [hsane.fonts.text, Bool.not_true]

end Infochart.Config
