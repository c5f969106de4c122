import Infochart.Config.Overrides
import Infochart.Proofs.Drawing.Painted
import Infochart.Proofs.Drawing.Unstyled

/-!
# Fonts and colors stay values

The font of a theme is escaped when it is written, and its colors are written as they are. So a font stays
a font whatever characters it holds, and a color stays a color unless it holds a quote: the quote ends the
value, and what stands behind it is read as markup (`keepsValues_iff`).
-/

namespace Infochart.Drawing

open Layout

/-- Whether the strings of a theme stay values in the drawing of a description: a reader finds every value
    as it was written, and the names that it finds are those that it finds with the font and the colors of
    the classic theme. -/
structure KeepsValues (t : Theme Float) (s : Settings Float) (csv : String) : Prop where
  tags : Scan.tags? (render t s csv).toList = some (ofCsv t s csv).tags
  outline : Scan.outline? (render t s csv).toList = Scan.outline? (render t.unstyled s csv).toList

theorem quote_not_mem_of_isPlain {v : String} (h : IsPlain v) : '"' ∉ v.toList := by
  intro hquote
  exact h '"' hquote (by decide)

theorem isPlain_of_mem_unstyled (t : Theme Float) : ∀ v ∈ t.unstyled.colors, IsPlain v := by
  have hclassic : ∀ v ∈ (Theme.classic : Theme Float).colors, IsPlain v := by decide
  exact hclassic

theorem takes_of_mem_attributes (t : Theme Float) (l : Layout Float) :
    ∀ a ∈ (ofLayout t l).attributes, Scan.raw.Takes a := by
  intro a ha
  have htakes := (isSafe_of_mem_attributes l a ha).takes
  exact takes_raw htakes.name htakes.closed

section Render

variable (t : Theme Float) (s : Settings Float) (csv : String)

/-- The tags of a drawing are read as they are written if and only if no color of the theme in it holds a
    quote. -/
theorem tags?_render_iff : Scan.tags? (render t s csv).toList = some (ofCsv t s csv).tags ↔
    ∀ v ∈ t.colors, v ∈ values (ofCsv t s csv).elements → '"' ∉ v.toList := by
  have hholds := holds_of_mem_ofCsv t s csv
  have hread := tags?_chars_iff (d := ofCsv t s csv) (takes_of_mem_attributes t _) fun e he a ha =>
    ((hholds e he).attributes a ha).name
  rw [toList_render, hread]
  constructor
  case mp =>
    intro hclosed v _ hv
    obtain ⟨e, he, hv⟩ := List.mem_flatMap.1 hv
    obtain ⟨a, ha, rfl⟩ := List.mem_map.1 hv
    exact hclosed e he a ha
  case mpr =>
    intro hcolors e he a ha
    rcases ((hholds e he).attributes a ha).value with hplain | hcolor
    · exact quote_not_mem_of_isPlain hplain
    · exact hcolors _ hcolor (List.mem_flatMap.2 ⟨e, he, List.mem_map_of_mem ha⟩)

variable {t s csv}

/-- Tags that are read as they are written have the outline of the drawing. -/
theorem outline?_of_tags? (h : Scan.tags? (render t s csv).toList = some (ofCsv t s csv).tags) :
    Scan.outline? (render t s csv).toList = some ((ofCsv t s csv).tags.map Scan.Head.names) := by
  unfold Scan.outline?
  rw [h, Option.map_some]

variable (t s csv)

theorem outline?_unstyled : Scan.outline? (render t.unstyled s csv).toList =
    some ((ofCsv t.unstyled s csv).tags.map Scan.Head.names) :=
  outline?_of_tags? ((tags?_render_iff t.unstyled s csv).2 fun v hv _ =>
    quote_not_mem_of_isPlain (isPlain_of_mem_unstyled t v hv))

/-- What is read as it was written has the outline that the classic font and colors give. -/
theorem keepsValues_iff_tags : KeepsValues t s csv ↔
    Scan.tags? (render t s csv).toList = some (ofCsv t s csv).tags := by
  constructor
  case mp => exact KeepsValues.tags
  case mpr =>
    intro htags
    refine ⟨htags, ?_⟩
    rw [outline?_of_tags? htags, outline?_unstyled]
    exact congrArg some (names_ofMap _ t s).symm

end Render

/-- **Fonts and colors stay values as long as no color holds a quote.** With any theme and any settings,
    the strings of the theme stay values in the drawing of a description if and only if no color of the
    theme that the drawing shows holds a quote; and they do so in all drawings if and only if none of the
    twelve colors holds one. Nothing is asked of the font, and nothing of other characters. -/
theorem keepsValues_iff (t : Theme Float) (s : Settings Float) :
    (∀ csv, KeepsValues t s csv ↔
      ∀ v ∈ t.colors, v ∈ values (ofCsv t s csv).elements → '"' ∉ v.toList) ∧
    ((∀ csv, KeepsValues t s csv) ↔ ∀ v ∈ t.colors, '"' ∉ v.toList) := by
  have hone (csv : String) : KeepsValues t s csv ↔
      ∀ v ∈ t.colors, v ∈ values (ofCsv t s csv).elements → '"' ∉ v.toList := by
    rw [keepsValues_iff_tags, tags?_render_iff]
  refine ⟨hone, fun hall v hv => ?_, fun hcolors csv => (hone csv).2 fun v hv _ => hcolors v hv⟩
  obtain ⟨csv, hshown⟩ := exists_csv_of_mem_colors t s v hv
  exact (hone csv).1 (hall csv) v hv hshown

/-! ## A color that adds an attribute -/

/-- A value that ends early is written like two attributes. -/
theorem chars_split (name before key after : String) :
    Attribute.chars ⟨name, before ++ "\" " ++ key ++ "=\"" ++ after⟩ =
      [⟨name, before⟩, ⟨key, after⟩].flatMap Attribute.chars := by
  have hquote : "\" ".toList = ['"', ' '] := rfl
  have hequals : "=\"".toList = ['=', '"'] := rfl
  simp [Attribute.chars, hquote, hequals]

/-- The rectangle behind a drawing, with its further attributes. -/
def ground (more : List Attribute) : Element where
  tag := .rect
  attributes := [⟨"width", "100%"⟩, ⟨"height", "100%"⟩] ++ more

/-- The drawing of an empty description. -/
theorem ofCsv_empty (t : Theme Float) (s : Settings Float) : ofCsv t s "" =
    ⟨(ofLayout t (unsupported none s)).attributes,
      ground [⟨"fill", t.background⟩] :: diagram t (unsupported none s).diagram⟩ := by
  have hkind : Chart.Spec.kindOf (Property.read "").map = none := by decide +kernel
  have htype : (Property.read "").map.text? .visualizationType = none := by decide +kernel
  unfold ofCsv
  rw [ofMap_of_unknown t s hkind, htype]
  rfl

section Split

variable {t : Theme Float} {before key after : String} (hkey : IsName key.toList)
  (hafter : '"' ∉ after.toList)
  (hbackground : t.background = before ++ "\" " ++ key ++ "=\"" ++ after)
  (hcolors : ∀ v ∈ ({ t with background := before } : Theme Float).colors, '"' ∉ v.toList)
include hkey hafter hbackground hcolors

/-- **A background can add any attribute with any value.** -/
theorem tags?_of_split (s : Settings Float) : Scan.tags? (render t s "").toList =
    some (tags ⟨(ofLayout t (unsupported none s)).attributes,
      ground [⟨"fill", before⟩, ⟨key, after⟩] :: diagram t (unsupported none s).diagram⟩) := by
  have hchars : (render t s "").toList =
      chars ⟨(ofLayout t (unsupported none s)).attributes,
        ground [⟨"fill", before⟩, ⟨key, after⟩] :: diagram t (unsupported none s).diagram⟩ := by
    have hground : (ground [⟨"fill", t.background⟩]).chars =
        (ground [⟨"fill", before⟩, ⟨key, after⟩]).chars := by
      simp [ground, Element.chars, hbackground, chars_split]
    rw [toList_render, ofCsv_empty]
    simp [chars, hground]
  have hbefore : '"' ∉ before.toList := by
    apply hcolors
    simp [Theme.colors]
  have hpermits := permits_of_colors (P := fun v => '"' ∉ v.toList)
    (fun _ => quote_not_mem_of_isPlain) hcolors
  rw [hchars]
  refine tags?_chars (takes_of_mem_attributes t _) (List.forall_mem_cons.2 ⟨?_, ?_⟩)
  · have hword : ∀ a ∈ [(⟨"width", "100%"⟩ : Attribute), ⟨"height", "100%"⟩], Scan.raw.Takes a := by
      simp only [List.forall_mem_cons]
      exact ⟨takes_raw (by decide) (by decide), takes_raw (by decide) (by decide), by simp⟩
    have hfill : IsName "fill".toList := by decide
    have hmore : ∀ a ∈ [(⟨"fill", before⟩ : Attribute), ⟨key, after⟩], Scan.raw.Takes a := by
      simp only [List.forall_mem_cons]
      exact ⟨takes_raw hfill hbefore, takes_raw hkey hafter, by simp⟩
    exact List.forall_mem_append.2 ⟨hword, hmore⟩
  · -- A placeholder shows no background, so it is drawn as with the first half of the value.
    intro e he a ha
    have hholds := (holds_of_mem_placeholder hpermits _ e he).attributes a ha
    exact takes_raw hholds.name hholds.value

/-- The outline of such a drawing has the attribute, and that with the classic colors has not. -/
theorem outline?_of_split (s : Settings Float) :
    Scan.outline? (render t s "").toList ≠ Scan.outline? (render t.unstyled s "").toList := by
  rw [outline?_unstyled, ofCsv_empty]
  unfold Scan.outline?
  rw [tags?_of_split hkey hafter hbackground hcolors]
  intro hsame
  -- The second element is the background in both.
  have hnames := congrArg (fun ns => (ns[1]?).map fun n => n.2.length) (Option.some.inj hsame)
  simp [tags, ground, Element.written, Scan.Head.names] at hnames

end Split

/-- A text that sets one color, by which every drawing gets an attribute that runs a script. -/
theorem not_keepsValues_of_script : ∃ c,
    Config.ofText? ("\x7b\"themeVariables\": \x7b\"background\": " ++
      "\"white\\\" onload=\\\"alert(1)\"\x7d\x7d") = some c ∧
    Scan.outline? (render c.theme c.settings "").toList ≠
      Scan.outline? (render c.theme.unstyled c.settings "").toList := by
  have hany : (Config.ofText? ("\x7b\"themeVariables\": \x7b\"background\": " ++
      "\"white\\\" onload=\\\"alert(1)\"\x7d\x7d")).any (fun c =>
        decide (c.theme.background = "white" ++ "\" " ++ "onload" ++ "=\"" ++ "alert(1)") &&
          ({ c.theme with background := "white" } : Theme Float).colors.all fun v =>
            decide ('"' ∉ v.toList)) = true := by
    decide +kernel
  rw [Option.any_eq_true] at hany
  obtain ⟨c, hc, hpass⟩ := hany
  simp only [Bool.and_eq_true, decide_eq_true_iff, List.all_eq_true] at hpass
  exact ⟨c, hc, outline?_of_split (by decide) (by decide) hpass.1 hpass.2 c.settings⟩

end Infochart.Drawing
