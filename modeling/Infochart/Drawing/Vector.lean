import Infochart.Drawing.Markup.Tree

/-!
# Vector drawings

Which elements of a document are those of a drawing, and how deep they may be nested. An element `use`
stands for another one, which counts as nested in it; so elements that stand for each other in a
circle are nested too deep, unless the circle is so small that it is seen at once.
-/

namespace Infochart.Drawing.Vector

open Markup (Space Head Node standardSpace)

def drawingSpace : Space := standardSpace ["2000", "svg"]

def linkSpace : Space := standardSpace ["1999", "xlink"]

def elementNames : List String :=
  ["a", "circle", "clipPath", "defs", "ellipse", "feBlend", "feColorMatrix", "feComponentTransfer",
   "feComposite", "feConvolveMatrix", "feDiffuseLighting", "feDisplacementMap", "feDistantLight",
   "feDropShadow", "feFlood", "feFuncA", "feFuncB", "feFuncG", "feFuncR", "feGaussianBlur",
   "feImage", "feMerge", "feMergeNode", "feMorphology", "feOffset", "fePointLight",
   "feSpecularLighting", "feSpotLight", "feTile", "feTurbulence", "filter", "g", "image", "line",
   "linearGradient", "marker", "mask", "path", "pattern", "polygon", "polyline", "radialGradient",
   "rect", "stop", "style", "svg", "switch", "symbol", "text", "textPath", "tref", "tspan", "use"]

/-- The name of an element of drawings, if a tag is that of one. -/
def elementName? (h : Head) : Option String :=
  let name := String.ofList h.name
  let isPlain := match h.space with
    | none => true
    | some s => s.isEmpty || s == drawingSpace
  if isPlain && elementNames.contains name then some name else none

def value? (space : Option Space) (name : String) (h : Head) : Option (List Char) :=
  (h.values.find? fun v => v.space == space && v.name == name.toList).map (·.content)

/-- The name behind the mark of a link inside the document. -/
def linkName? (s : List Char) : Option (List Char) :=
  match s.dropWhile Markup.isTagBlank with
  | '#' :: r =>
    let name := r.takeWhile (· != ' ')
    if !name.isEmpty && (r.dropWhile (· != ' ')).all Markup.isTagBlank then some name else none
  | _ => none

/-- The elements below a node, in the order of their tags. -/
def elements : Node → List Node
  | .note => []
  | .element h children => .element h children :: below children
where
  /-- The elements below some nodes. -/
  below : List Node → List Node
    | [] => []
    | n :: r => elements n ++ below r

def head? : Node → Option Head
  | .note => none
  | .element h _ => some h

def named? (all : List Node) (name : List Char) : Option Node :=
  all.find? fun n => (head? n).any fun h => value? none "id" h == some name

def linked? (all : List Node) (h : Head) : Option Node :=
  ((value? (some linkSpace) "href" h).orElse fun _ => value? none "href" h)
    |>.bind linkName? |>.bind (named? all)

/-- Whether an element has one inside that stands for one of two given ones. -/
def refersTo (all : List Node) (n : Node) (numbers : List Nat) : Bool :=
  ((elements n).drop 1).any fun inner =>
    (head? inner).any fun h =>
      h.space == some drawingSpace && h.name == "use".toList
        && ((linked? all h).bind head?).any fun target => numbers.contains target.number

/-- Whether a node keeps within a number of levels. The number `origin` is that of the `use` that is
    being followed. -/
def keepsWithin (all : List Node) : Nat → Option Nat → Node → Bool
  | 0, _, _ => false
  | _ + 1, _, .note => true
  | levels + 1, origin, .element h children =>
    match elementName? h with
    | none | some "style" | some "text" => true
    | some "use" =>
      match linked? all h with
      | some (.element t inner) =>
        if t.number = h.number ∨ some t.number = origin then true
        else if (elementName? t).isNone then true
        else if refersTo all (.element t inner) [h.number, t.number] then true
        else match levels with
          | 0 => false
          | k + 1 => keepsWithin all k (some h.number) (.element t inner)
      | _ => true
    | some _ => children.all (keepsWithin all levels origin)

def maxLevels : Nat := 1025

/-- Whether a document is a drawing that can be shown. -/
def isShown (root : Node) : Bool :=
  (head? root).any (fun h => elementName? h == some "svg")
    && keepsWithin (elements root) maxLevels none root

end Infochart.Drawing.Vector
