import Infochart.Config.Overrides
import Mathlib.Data.List.Basic
import Mathlib.Data.List.Perm.Basic

/-!
# In which order canvases are changed

The canvas object of a settings file has free keys, and several of them may name one kind of chart. Each
entry puts its positive measures in the place of those that are there, so two entries commute exactly if
they do not set one measure of one kind to two values (`applyCanvas_comm`), and the order of all entries
is free exactly if any two of them commute.
-/

namespace Infochart.Config

/-- A measure that an entry sets. Only positive ones count. -/
def counted (x : Option Float) : Option Float :=
  x.filter (0 < ·)

/-- Two changes to a measure that may come in either order: if both count, they are to the same value. -/
def SameMeasure (x y : Option Float) : Prop :=
  ∀ v ∈ counted x, ∀ w ∈ counted y, v = w

instance (x y : Option Float) : Decidable (SameMeasure x y) :=
  inferInstanceAs (Decidable (∀ v ∈ counted x, ∀ w ∈ counted y, v = w))

/-- Two changes to a canvas that may come in either order. -/
def CanvasOverride.Agrees (a b : CanvasOverride) : Prop :=
  SameMeasure a.width b.width ∧ SameMeasure a.height b.height

instance (a b : CanvasOverride) : Decidable (a.Agrees b) :=
  inferInstanceAs (Decidable (_ ∧ _))

/-- Whether two entries of the canvas object do not set one measure of one kind of chart to two values. -/
def EntriesAgree (e e' : String × CanvasOverride) : Prop :=
  Chart.Kind.resolve e.1 ≠ none → Chart.Kind.resolve e.1 = Chart.Kind.resolve e'.1 → e.2.Agrees e'.2

instance (e e' : String × CanvasOverride) : Decidable (EntriesAgree e e') :=
  inferInstanceAs (Decidable (_ → _ → _))

/-- Whether any two entries of the canvas object agree. -/
def Overrides.Consistent (o : Overrides) : Prop :=
  ∀ e ∈ o.canvas, ∀ e' ∈ o.canvas, EntriesAgree e e'

instance (o : Overrides) : Decidable o.Consistent :=
  inferInstanceAs (Decidable (∀ e ∈ o.canvas, ∀ e' ∈ o.canvas, EntriesAgree e e'))

/-! ## Two entries -/

theorem SameMeasure.getD_comm {x y : Option Float} (h : SameMeasure x y) (z : Float) :
    (counted y).getD ((counted x).getD z) = (counted x).getD ((counted y).getD z) := by
  cases hx : counted x with
  | none => rfl
  | some v =>
    cases hy : counted y with
    | none => rfl
    | some w => exact (h v hx w hy).symm

theorem CanvasOverride.apply_eq (a : CanvasOverride) (c : Layout.Canvas Float) :
    a.apply c = ⟨(counted a.width).getD c.width, (counted a.height).getD c.height⟩ := rfl

theorem CanvasOverride.Agrees.apply_comm {a b : CanvasOverride} (h : a.Agrees b)
    (c : Layout.Canvas Float) : b.apply (a.apply c) = a.apply (b.apply c) := by
  simp only [CanvasOverride.apply_eq, h.1.getD_comm, h.2.getD_comm]

variable {s : Layout.Settings Float} {e e' : String × CanvasOverride} {kind : Chart.Kind}

theorem applyCanvas_of_resolve (h : Chart.Kind.resolve e.1 = some kind) :
    applyCanvas s e = s.setCanvas kind (e.2.apply (s.canvas kind)) := by
  unfold applyCanvas
  rw [h]

theorem applyCanvas_of_unknown (h : Chart.Kind.resolve e.1 = none) : applyCanvas s e = s := by
  unfold applyCanvas
  rw [h]

/-- **Entries that agree commute.** -/
theorem applyCanvas_comm (h : EntriesAgree e e') :
    applyCanvas (applyCanvas s e) e' = applyCanvas (applyCanvas s e') e := by
  cases hk : Chart.Kind.resolve e.1 with
  | none => rw [applyCanvas_of_unknown hk, applyCanvas_of_unknown hk]
  | some kind =>
    cases hk' : Chart.Kind.resolve e'.1 with
    | none => rw [applyCanvas_of_unknown hk', applyCanvas_of_unknown hk']
    | some kind' =>
      rw [applyCanvas_of_resolve hk, applyCanvas_of_resolve hk, applyCanvas_of_resolve hk',
        applyCanvas_of_resolve hk']
      unfold Layout.Settings.setCanvas
      congr 1
      funext k
      by_cases hkind : kind = kind'
      · subst hkind
        have hagree : e.2.Agrees e'.2 := h (by simp [hk]) (hk.trans hk'.symm)
        by_cases hthis : k = kind <;> simp [hthis, hagree.apply_comm]
      · by_cases hthis : k = kind
        · subst hthis
          simp [hkind]
        · simp [hthis, Ne.symm hkind]

/-! ## All entries -/

theorem applyCanvas_eq (s : Layout.Settings Float) (e : String × CanvasOverride) :
    applyCanvas s e = { s with canvas := (applyCanvas s e).canvas } := by
  unfold applyCanvas
  cases Chart.Kind.resolve e.1 <;> rfl

/-- The entries of the canvas object change nothing else. -/
theorem foldl_applyCanvas (entries : List (String × CanvasOverride)) (s : Layout.Settings Float) :
    entries.foldl applyCanvas s = { s with canvas := (entries.foldl applyCanvas s).canvas } := by
  induction entries generalizing s with
  | nil => rfl
  | cons e r ih =>
    rw [List.foldl_cons, ih, applyCanvas_eq s e]

/-- What the entries for a kind of chart keep of its canvas, all entries keep. -/
theorem of_canvas_foldl {P : Layout.Canvas Float → Prop} {entries : List (String × CanvasOverride)}
    (hs : P (s.canvas kind))
    (hstep : ∀ e ∈ entries, Chart.Kind.resolve e.1 = some kind → ∀ c, P c → P (e.2.apply c)) :
    P ((entries.foldl applyCanvas s).canvas kind) := by
  induction entries generalizing s with
  | nil => exact hs
  | cons e r ih =>
    refine ih ?_ fun e' he' => hstep e' (List.mem_cons_of_mem e he')
    cases hk : Chart.Kind.resolve e.1 with
    | none => rwa [applyCanvas_of_unknown hk]
    | some kind' =>
      rw [applyCanvas_of_resolve hk]
      unfold Layout.Settings.setCanvas
      simp only
      split
      case isTrue hsame =>
        subst hsame
        exact hstep e List.mem_cons_self hk _ hs
      case isFalse => exact hs

/-- What an entry says holds behind it, whatever came before. -/
theorem canvas_last (entries : List (String × CanvasOverride))
    (h : Chart.Kind.resolve e.1 = some kind) :
    ∃ before, ((entries ++ [e]).foldl applyCanvas s).canvas kind = e.2.apply before := by
  refine ⟨(entries.foldl applyCanvas s).canvas kind, ?_⟩
  rw [List.foldl_append, List.foldl_cons, List.foldl_nil, applyCanvas_of_resolve h]
  exact if_pos rfl

/-- Any entry may be the last one. -/
theorem exists_perm_last {α : Type} {x : α} {l : List α} (h : x ∈ l) :
    ∃ before, (before ++ [x]).Perm l := by
  obtain ⟨before, rest, rfl⟩ := List.append_of_mem h
  refine ⟨before ++ rest, ?_⟩
  rw [List.append_assoc]
  exact (List.perm_append_singleton x rest).append_left before

/-- The overrides with the entries of the canvas object in another order. -/
def Overrides.visit (o : Overrides) (canvas : List (String × CanvasOverride)) : Overrides :=
  { o with canvas := canvas }

theorem Overrides.apply_visit {o : Overrides} {c : Config}
    {canvas : List (String × CanvasOverride)}
    (h : canvas.foldl applyCanvas c.settings = o.canvas.foldl applyCanvas c.settings) :
    (o.visit canvas).apply c = o.apply c := by
  unfold Overrides.apply Overrides.applySettings Overrides.visit
  simp only [h]

/-- **The order of the entries is free exactly if any two of them agree.** -/
theorem Overrides.apply_perm_iff (o : Overrides) (c : Config) :
    (∀ canvas, canvas.Perm o.canvas → (o.visit canvas).apply c = o.apply c) ↔ o.Consistent := by
  constructor
  · intro h e he e' he' hknown hsame
    obtain ⟨kind, hk⟩ := Option.ne_none_iff_exists'.1 hknown
    -- Each of the two entries may come last, and then its measures are those of the configuration.
    have hlast : ∀ e ∈ o.canvas, Chart.Kind.resolve e.1 = some kind →
        ∃ before, (o.apply c).settings.canvas kind = e.2.apply before := by
      intro e he hk
      obtain ⟨entries, hperm⟩ := exists_perm_last he
      obtain ⟨before, hbefore⟩ := canvas_last (s := c.settings) entries hk
      refine ⟨before, ?_⟩
      rw [← h _ hperm]
      exact hbefore
    obtain ⟨before, hthis⟩ := hlast e he hk
    obtain ⟨before', hthat⟩ := hlast e' he' (hsame.symm.trans hk)
    have hcanvas : e.2.apply before = e'.2.apply before' := hthis.symm.trans hthat
    rw [CanvasOverride.apply_eq, CanvasOverride.apply_eq, Layout.Canvas.mk.injEq] at hcanvas
    constructor
    · intro v hv w hw
      simpa [Option.mem_def.1 hv, Option.mem_def.1 hw] using hcanvas.1
    · intro v hv w hw
      simpa [Option.mem_def.1 hv, Option.mem_def.1 hw] using hcanvas.2
  · intro h canvas hperm
    refine Overrides.apply_visit (hperm.foldl_eq' (fun e he e' he' s => ?_) c.settings)
    exact applyCanvas_comm (h e (hperm.mem_iff.1 he) e' (hperm.mem_iff.1 he'))

/-! ## Texts -/

/-- A configuration that the text of a settings file may be read as, if the entries of its canvas object
    are visited in some order. -/
def MayDescribe (s : String) (c : Config) : Prop :=
  ∃ o, Overrides.ofText? s.toList = some o ∧
    ∃ canvas, canvas.Perm o.canvas ∧ (o.visit canvas).apply standard = c

theorem ofText?_eq {s : String} {o : Overrides} (h : Overrides.ofText? s.toList = some o) :
    ofText? s = some (o.apply standard) := by
  unfold ofText?
  rw [h]
  rfl

/-- An entry that is put behind the others takes the place of those with its key. -/
theorem nodup_replace {done : List (String × CanvasOverride)} (h : (done.map Prod.fst).Nodup)
    (e : String × CanvasOverride) :
    ((done.filter (fun d => d.1 != e.1) ++ [e]).map Prod.fst).Nodup := by
  rw [List.map_append, List.nodup_append]
  refine ⟨h.sublist (List.filter_sublist.map _), by simp, ?_⟩
  simp only [List.mem_map, List.mem_filter]
  rintro _ ⟨d, ⟨-, hd⟩, rfl⟩ _ hk rfl
  simp_all

/-- What every step keeps, all steps keep. -/
theorem of_foldlM {α β : Type} {P : β → Prop} {f : β → α → Option β} {l : List α} {b b' : β}
    (hstep : ∀ b, ∀ a ∈ l, ∀ b', f b a = some b' → P b → P b') (h : l.foldlM f b = some b')
    (hb : P b) : P b' := by
  induction l generalizing b with
  | nil =>
    cases h
    exact hb
  | cons a r ih =>
    rw [List.foldlM_cons] at h
    obtain ⟨next, hnext, hrest⟩ := Option.bind_eq_some_iff.1 h
    refine ih (fun b a ha => hstep b a (List.mem_cons_of_mem _ ha)) hrest ?_
    exact hstep b a List.mem_cons_self next hnext hb

theorem nodup_canvasOverrides {m : Manner} {n : Node} {entries : List (String × CanvasOverride)}
    (h : canvasOverrides m n = some entries) : (entries.map Prod.fst).Nodup := by
  unfold canvasOverrides at h
  split at h
  · refine of_foldlM (P := fun done => (done.map Prod.fst).Nodup) ?_ h List.nodup_nil
    rintro done member - done' hstep hdone
    simp only [Option.bind_eq_bind, Option.bind_eq_some_iff, Option.pure_def, Option.some.injEq]
      at hstep
    obtain ⟨key, -, change, -, rfl⟩ := hstep
    exact nodup_replace hdone (key, change)
  · cases h

/-- The entries that a text leaves have different keys. -/
theorem nodup_of_overrides {m : Manner} {n : Node} {o : Overrides} (h : overrides m n = some o) :
    (o.canvas.map Prod.fst).Nodup := by
  unfold overrides at h
  simp only [Option.bind_eq_bind, Option.bind_eq_some_iff, Option.pure_def, Option.some.injEq] at h
  obtain ⟨_, -, -, -, -, -, canvas, hcanvas, -, -, -, -, -, -, -, -, -, -, -, -, -, -, -, -, rfl⟩ :=
    h
  unfold Node.optional at hcanvas
  split at hcanvas
  · cases hcanvas
    exact List.nodup_nil
  · obtain ⟨entries, hentries, rfl⟩ := Option.map_eq_some_iff.1 hcanvas
    exact nodup_canvasOverrides hentries

theorem Overrides.nodup_of_ofText? {s : List Char} {o : Overrides} (h : Overrides.ofText? s = some o) :
    (o.canvas.map Prod.fst).Nodup := by
  unfold Overrides.ofText? at h
  split at h
  · rename_i hstrict
    cases h
    obtain ⟨n, -, hn⟩ := Option.bind_eq_some_iff.1 hstrict
    exact nodup_of_overrides hn
  · obtain ⟨n, -, hn⟩ := Option.bind_eq_some_iff.1 h
    exact nodup_of_overrides hn

/-- **One text, one configuration, exactly if the canvas object is consistent.** Visiting the entries of
    the canvas object in any order gives one and the same configuration if and only if no two of them set
    one measure of one kind of chart to two positive values. The entries that a text leaves have different
    keys, and the configuration that is read is the only one that the text may describe if and only if
    they are consistent. -/
theorem visit_order_free_iff (o : Overrides) (c : Config) :
    ((∀ canvas, canvas.Perm o.canvas → (o.visit canvas).apply c = o.apply c) ↔ o.Consistent) ∧
    ∀ s : String, Overrides.ofText? s.toList = some o →
      (o.canvas.map Prod.fst).Nodup ∧
        ((∀ c, MayDescribe s c → ofText? s = some c) ↔ o.Consistent) := by
  refine ⟨o.apply_perm_iff c, fun s ho => ⟨Overrides.nodup_of_ofText? ho, ?_⟩⟩
  rw [← o.apply_perm_iff standard, ofText?_eq ho]
  constructor
  · intro h canvas hperm
    exact (Option.some.inj (h _ ⟨o, ho, canvas, hperm, rfl⟩)).symm
  · rintro hfree c ⟨_, hthis, canvas, hperm, rfl⟩
    cases ho.symm.trans hthis
    rw [hfree canvas hperm]

theorem exists_overrides_of_any {s : String} {P : Overrides → Bool}
    (h : (Overrides.ofText? s.toList).any P = true) :
    ∃ o, Overrides.ofText? s.toList = some o ∧ P o = true := by
  cases ho : Overrides.ofText? s.toList with
  | none =>
    rw [ho] at h
    cases h
  | some o =>
    rw [ho] at h
    exact ⟨o, rfl, h⟩

/-- Two keys name bar charts, but the width is that of the one and the height that of the other; a third
    key names pie charts, and a fourth names none. -/
theorem visit_order_free_of_split :
    let s := "\x7bcanvas: \x7bbar: \x7bwidth: 640\x7d, 'Bar  Chart': \x7bwidth: -1, height: 300\x7d, " ++
      "pie: \x7bwidth: 500\x7d, map: \x7bwidth: 1\x7d\x7d\x7d"
    (∃ o, Overrides.ofText? s.toList = some o ∧ o.canvas.length = 4 ∧ o.Consistent) ∧
      ∀ c, MayDescribe s c → ofText? s = some c := by
  intro s
  obtain ⟨o, ho, hentries⟩ := @exists_overrides_of_any s
    (fun o => decide (o.canvas.length = 4) && decide o.Consistent) (by decide +kernel)
  rw [Bool.and_eq_true, decide_eq_true_iff, decide_eq_true_iff] at hentries
  exact ⟨⟨o, ho, hentries⟩, ((visit_order_free_iff o standard).2 s ho).2.2 hentries.2⟩

/-- Two keys that name bar charts, with a width each: the one that is visited last wins. -/
theorem not_visit_order_free :
    (¬ ∀ (o : Overrides) (c : Config), (o.canvas.map Prod.fst).Nodup →
      ∀ canvas, canvas.Perm o.canvas → (o.visit canvas).apply c = o.apply c) ∧
    ¬ ∀ s c, MayDescribe s c → ofText? s = some c := by
  constructor
  · intro h
    let o : Overrides := { canvas := [("bar", ⟨some 100, none⟩), ("bar chart", ⟨some 200, none⟩)] }
    have hfree := (o.apply_perm_iff standard).1 (h o standard (by decide))
    revert hfree
    decide +kernel
  · intro h
    obtain ⟨o, ho, hconflict⟩ := @exists_overrides_of_any
      "\x7b\"canvas\": \x7b\"bar\": \x7b\"width\": 100\x7d, \"bar chart\": \x7b\"width\": 200\x7d\x7d\x7d"
      (fun o => !decide o.Consistent) (by decide +kernel)
    have hfree := (o.apply_perm_iff standard).1 fun canvas hperm => by
      have hread := h _ _ ⟨o, ho, canvas, hperm, rfl⟩
      rw [ofText?_eq ho] at hread
      exact (Option.some.inj hread).symm
    simp [hfree] at hconflict

end Infochart.Config
