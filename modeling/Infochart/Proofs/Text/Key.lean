import Infochart.Text.Key
import Infochart.Proofs.Text.Lowercase
import Infochart.Proofs.Text.Words
import Mathlib.Data.List.Forall2

/-!
# Laws of keys

A key is the words of a name in lower case with single spaces between them (`key_eq`): a space has no case
and does not let the final sigma look past it, so lower case may be taken word by word. The words of the
key are therefore words in lower case, and **the key of a key is the key** (`key_key`). Lower case does not
show the case of the letters of ASCII, so **names whose words differ in that only have one key**
(`key_eq_of_sameWords`). A text that is trimmed and put into the small letters of ASCII is such a name
(`key_asciiLower_trimmed`).
-/

namespace Infochart.Text

/-- Whether two words are equal up to the case of the letters of ASCII. -/
def SameWord (v w : List Char) : Prop :=
  v.map Char.toLower = w.map Char.toLower

/-- Whether the words of two texts are equal one by one, up to the case of the letters of ASCII. -/
def SameWords (s t : List Char) : Prop :=
  List.Forall₂ SameWord (words s) (words t)

theorem lower_join (ws : List (List Char)) : lower (join ' ' ws) = join ' ' (ws.map lower) := by
  induction ws with
  | nil => rfl
  | cons v ws ih =>
    cases ws with
    | nil => rfl
    | cons w ws =>
      rw [join_cons_cons, lower_append_space, ih]
      rfl

/-- **A key is made word by word.** -/
theorem key_eq (name : List Char) : key name = join ' ' ((words name).map lower) :=
  lower_join (words name)

theorem IsWord.lower {w : List Char} (h : IsWord w) : IsWord (lower w) :=
  ⟨lower_ne_nil h.nonempty, fun _ => isBlank_of_mem_lower h.full⟩

theorem words_key (name : List Char) : words (key name) = (words name).map lower := by
  rw [key_eq]
  apply words_join
  intro w hw
  obtain ⟨v, hv, rfl⟩ := List.mem_map.1 hw
  exact (isWord_of_mem_words hv).lower

/-- **The key of a key is the key.** -/
theorem key_key (name : List Char) : key (key name) = key name := by
  rw [key_eq (key name), words_key, List.map_map, key_eq name]
  congr 1
  exact List.map_congr_left fun w _ => lower_lower w

/-- **Letter case of ASCII and spacing do not show in a key.** -/
theorem key_eq_of_sameWords {s t : List Char} (h : SameWords s t) : key s = key t := by
  have hwords : (words s).map lower = (words t).map lower := by
    rw [← List.forall₂_eq_eq_eq, List.forall₂_map_left_iff, List.forall₂_map_right_iff]
    refine h.imp fun v w hvw => ?_
    rw [← lower_map_toLower v, hvw, lower_map_toLower]
  rw [key_eq, key_eq, hwords]

/-- Nor do blanks around a name and its capital letters of ASCII. -/
theorem key_asciiLower_trimmed (name : String) :
    key (asciiLower (trimmed name)).toList = key name.toList := by
  unfold asciiLower trimmed
  rw [String.toList_ofList, String.toList_ofList]
  apply key_eq_of_sameWords
  unfold SameWords
  rw [words_map isBlank_toLower, words_trim, List.forall₂_map_left_iff, List.forall₂_same]
  intro w _
  have htwice (c : Char) : c.toLower.toLower = c.toLower := apply_toLower Char.toLower (by decide) c
  unfold SameWord
  rw [List.map_map]
  exact List.map_congr_left fun c _ => htwice c

end Infochart.Text
