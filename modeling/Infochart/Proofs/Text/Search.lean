import Infochart.Text.Search
import Mathlib.Data.List.Infix

/-!
# Laws of searching

A pattern is found if it occurs somewhere, and the text is cut in front of it exactly then. Around a character
that is not in the pattern it occurs on one side or on the other.
-/

namespace Infochart.Text

/-- A pattern occurs in a text if it is an infix of it. -/
theorem contains_iff {pattern s : List Char} : contains pattern s = true ↔ pattern <:+: s := by
  induction s with
  | nil =>
    rw [List.infix_nil]
    exact List.isEmpty_iff
  | cons c r ih =>
    rw [List.infix_cons_iff, ← ih, ← List.isPrefixOf_iff_prefix, ← Bool.or_eq_true]
    rfl

/-- The text is cut in front of an occurrence of the pattern. -/
theorem splitBefore_eq_some {pattern s a b : List Char} (h : splitBefore pattern s = some (a, b)) :
    s = a ++ b ∧ pattern <+: b := by
  induction s generalizing a with
  | nil =>
    unfold splitBefore at h
    split at h
    · rename_i hempty
      cases h
      exact ⟨rfl, List.prefix_nil.2 (List.isEmpty_iff.1 hempty)⟩
    · cases h
  | cons c r ih =>
    unfold splitBefore at h
    split at h
    · rename_i hstart
      cases h
      exact ⟨rfl, List.isPrefixOf_iff_prefix.1 hstart⟩
    · obtain ⟨⟨a', b'⟩, hrest, heq⟩ := Option.map_eq_some_iff.1 h
      cases heq
      obtain ⟨rfl, hstart⟩ := ih hrest
      exact ⟨rfl, hstart⟩

theorem splitBefore_eq_none_iff {pattern s : List Char} :
    splitBefore pattern s = none ↔ ¬ pattern <:+: s := by
  rw [← contains_iff]
  induction s with
  | nil => simp [splitBefore, contains]
  | cons c r ih =>
    unfold splitBefore contains
    split
    · rename_i hstart
      simp [hstart]
    · rename_i hstart
      simp [hstart, ih]

/-- A pattern without a certain character occurs on one side of this character. -/
theorem infix_append_cons_iff {pattern a b : List Char} {c : Char} (h : c ∉ pattern) :
    pattern <:+: a ++ c :: b ↔ pattern <:+: a ∨ pattern <:+: b := by
  have hnil : ∀ {l : List Char}, l <+: c :: b → c ∉ l → l = [] := by
    intro l hl hc
    rcases List.prefix_cons_iff.1 hl with rfl | ⟨t, rfl, -⟩
    · rfl
    · exact absurd List.mem_cons_self hc
  constructor
  · intro hin
    rcases List.infix_append_iff.1 hin with ha | hb | ⟨l, r, rfl, hl, hr⟩
    · exact .inl ha
    · rcases List.infix_cons_iff.1 hb with hstart | hb
      · rw [hnil hstart h]
        exact .inl List.nil_infix
      · exact .inr hb
    · -- What reaches up to the character stops in front of it.
      rw [hnil hr fun hc => h (List.mem_append_right l hc), List.append_nil]
      exact .inl hl.isInfix
  · rintro (hin | hin)
    · exact hin.trans (List.prefix_append ..).isInfix
    · exact hin.trans ((List.suffix_cons ..).trans (List.suffix_append ..)).isInfix

end Infochart.Text
