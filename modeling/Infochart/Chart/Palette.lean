import Infochart.Text.Key
import Infochart.Notice

/-!
# Color schemes

Eleven palettes of five colors. A scheme is looked up by the key of its name; an unknown name gets the
corporate palette and a notice.
-/

namespace Infochart.Chart

structure Palette where
  name : String
  colors : List String
  deriving Repr

namespace Palette

def corporate : Palette :=
  ⟨"corporate", ["#4285F4", "#34A853", "#FBBC05", "#EA4335", "#5F6368"]⟩

/-- All palettes. -/
def all : List Palette :=
  [corporate,
   ⟨"vibrant", ["#FF5733", "#33FF57", "#3357FF", "#FF33F5", "#F5FF33"]⟩,
   ⟨"monochromatic", ["#333333", "#555555", "#777777", "#999999", "#BBBBBB"]⟩,
   ⟨"pastel", ["#FFB6C1", "#AFEEEE", "#FFDAB9", "#D8BFD8", "#FFFACD"]⟩,
   ⟨"high contrast", ["#000000", "#FF0000", "#00FF00", "#0000FF", "#FFFF00"]⟩,
   ⟨"brand colors", ["#1877F2", "#E4405F", "#1DA1F2", "#0A66C2", "#FF0000"]⟩,
   ⟨"cool tones", ["#3498DB", "#1ABC9C", "#2ECC71", "#9B59B6", "#34495E"]⟩,
   ⟨"warm tones", ["#E74C3C", "#F39C12", "#D35400", "#F1C40F", "#E67E22"]⟩,
   ⟨"grayscale", ["#252525", "#636363", "#969696", "#CCCCCC", "#F7F7F7"]⟩,
   ⟨"accessible", ["#0072B2", "#E69F00", "#009E73", "#CC79A7", "#56B4E9"]⟩,
   ⟨"nature inspired", ["#2E7D32", "#8BC34A", "#00796B", "#2196F3", "#FFC107"]⟩]

def ofKey? (key : List Char) : Option Palette :=
  all.find? fun p => p.name.toList == key

def isKnown (name : String) : Bool :=
  (ofKey? (Text.key name.toList)).isSome

/-- The palette of a name, or the corporate one. -/
def resolve (name : String) : Palette :=
  (ofKey? (Text.key name.toList)).getD corporate

theorem resolve_mem (name : String) : resolve name ∈ all := by
  unfold resolve
  cases hkey : ofKey? (Text.key name.toList) with
  | none => exact List.mem_cons_self
  | some p => exact List.mem_of_find?_eq_some hkey

/-- The notice that a name is not that of a palette; an empty name goes without. -/
def notices (name : String) : List Notice :=
  let key := Text.key name.toList
  if key.isEmpty || (ofKey? key).isSome then [] else [.unknownScheme (String.ofList key)]

end Palette

/-- The color at a position, with the colors repeated as often as needed. Without colors the corporate
    palette takes their place. -/
def colorAt (colors : List String) (i : Nat) : String :=
  let colors := if colors.isEmpty then Palette.corporate.colors else colors
  colors[i % colors.length]?.getD ""

end Infochart.Chart
