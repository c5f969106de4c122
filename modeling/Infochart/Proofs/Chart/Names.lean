import Infochart.Chart.Kind
import Infochart.Chart.Palette
import Infochart.Proofs.Text.Key

/-!
# Names of kinds and of color schemes

Kinds of charts and color schemes are looked up by the key of a name. So names with one key name the same
(`SameNames.of_key`), and that is the case as soon as their words are equal up to letter case, however they
are spaced. Looking up a color scheme always gives colors: those of a palette with this key, or else the
corporate ones.
-/

namespace Infochart.Chart

/-- Whether two names have one key, so that they name one kind of chart and one palette, or neither. -/
structure SameNames (a b : String) : Prop where
  key : Text.keyOf a = Text.keyOf b
  kind : Kind.resolve a = Kind.resolve b
  palette : Palette.resolve a = Palette.resolve b
  known : Palette.isKnown a = Palette.isKnown b

variable {a b name : String}

theorem keyOf_keyOf (name : String) : Text.keyOf (Text.keyOf name) = Text.keyOf name := by
  unfold Text.keyOf
  rw [String.toList_ofList, Text.key_key]

theorem SameNames.of_key (h : Text.key a.toList = Text.key b.toList) : SameNames a b := by
  constructor
  · unfold Text.keyOf
    rw [h]
  · unfold Kind.resolve
    rw [h]
  · unfold Palette.resolve
    rw [h]
  · unfold Palette.isKnown
    rw [h]

/-! ## Palettes -/

theorem Palette.resolve_of_unknown (h : Palette.isKnown name = false) :
    Palette.resolve name = Palette.corporate := by
  have hnone : Palette.ofKey? (Text.key name.toList) = none :=
    Option.isNone_iff_eq_none.1 (Option.isSome_eq_false_iff.1 h)
  unfold Palette.resolve
  rw [hnone, Option.getD_none]

theorem Palette.colors_ne_nil (name : String) : (Palette.resolve name).colors ≠ [] := by
  have hall : ∀ p ∈ Palette.all, p.colors ≠ [] := by decide
  exact hall _ (Palette.resolve_mem name)

/-! ## Names -/

/-- **Names are matched up to letter case and spacing.** A key is its own key; two names whose words are
    equal one by one, up to the case of the letters of ASCII, have one key and name the same; and every
    name gets a palette with colors, which is the corporate one if no palette is known by it. -/
theorem names_matched_by_words :
    (∀ name, Text.keyOf (Text.keyOf name) = Text.keyOf name) ∧
      (∀ a b : String, Text.SameWords a.toList b.toList → SameNames a b) ∧
        ∀ name, (Palette.resolve name).colors ≠ [] ∧
          (Palette.isKnown name = false → Palette.resolve name = Palette.corporate) := by
  refine ⟨keyOf_keyOf, ?_, ?_⟩
  · intro a b h
    exact SameNames.of_key (Text.key_eq_of_sameWords h)
  · intro name
    exact ⟨Palette.colors_ne_nil name, Palette.resolve_of_unknown⟩

/-- Cool tones, however they are written. -/
theorem names_matched_by_words_of_tones :
    Text.SameWords "  cool\tTONES ".toList "Cool Tones".toList ∧
      SameNames "  cool\tTONES " "Cool Tones" := by
  have h : Text.SameWords "  cool\tTONES ".toList "Cool Tones".toList :=
    .cons rfl (.cons rfl .nil)
  exact ⟨h, names_matched_by_words.2.1 _ _ h⟩

end Infochart.Chart
