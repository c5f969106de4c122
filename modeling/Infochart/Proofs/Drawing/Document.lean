import Infochart.Drawing.Document
import Infochart.Proofs.Text.Blank
import Infochart.Proofs.Text.Search

/-!
# Documents of drawings

The drawing of a layout begins with a tag that holds the name space and ends with a tag, so there is
nothing to trim and nothing to add but the declaration.
-/

namespace Infochart.Drawing

variable {α : Type} [Layout.Scale α] [Layout.Written α] (t : Theme α) (l : Layout α)

theorem trim_chars (d : Drawing) : Text.trim d.chars = d.chars := by
  have hlast : d.chars.getLast? = some '>' := by
    unfold Drawing.chars
    rw [List.getLast?_append]
    rfl
  rw [Text.trim_eq_self_iff, hlast]
  constructor
  · rintro c ⟨⟩
    decide
  · rintro c ⟨⟩
    decide

theorem contains_nameSpaceAttribute :
    Text.contains nameSpaceAttribute (ofLayout t l).chars = true := by
  rw [Text.contains_iff]
  exact ⟨"<svg ".toList, _, rfl⟩

/-- **The document of a drawing is the declaration, a line feed, and the drawing.** -/
theorem finalize_chars :
    finalize (ofLayout t l).chars = declaration ++ '\n' :: (ofLayout t l).chars := by
  unfold finalize withNameSpace
  rw [trim_chars, if_pos (contains_nameSpaceAttribute t l)]
  rfl

/-- The declaration, a line feed, and a text. -/
def declared (svg : String) : String :=
  String.ofList (declaration ++ '\n' :: svg.toList)

theorem document_svg : document (ofLayout t l).svg = declared (ofLayout t l).svg := by
  unfold document declared Drawing.svg
  rw [String.toList_ofList, finalize_chars]

end Infochart.Drawing
