import Infochart.Proofs.Drawing.Reading

/-!
# Drawings scanned

What the reader makes of a drawing. An attribute is read back if its name is a name and its value an
escaped text; then the reader, wherever it begins an element, ends it where the writer did, and a
whole drawing is read as its root with its elements inside.
-/

namespace Infochart.Drawing

open Scan

/-! ## Parts that can be read back -/

/-- An attribute that is read back: its name is a name, and its value an escaped text. -/
structure Attribute.IsSafe (a : Attribute) : Prop where
  name : IsName a.name.toList
  value : ∃ s, a.value.toList = escape s

/-- An element that is read back, and that has content if and only if it is a text. -/
structure Element.IsSafe (e : Element) : Prop where
  attributes : ∀ a ∈ e.attributes, a.IsSafe
  content : e.content.isSome = true ↔ e.tag = .text

/-- An attribute as it is read. -/
def Attribute.view (a : Attribute) : List Char × List Char :=
  (a.name.toList, (unescape? a.value.toList).getD [])

def Element.head (e : Element) : Head :=
  ⟨e.tag.name.toList, e.attributes.map Attribute.view⟩

/-- An element as it is read. -/
def Element.view (e : Element) : Node :=
  ⟨e.head, e.content.map String.toList⟩

/-- The pieces of an element. -/
def Element.pieces (e : Element) : List Piece :=
  match e.content with
  | none => [.single e.head]
  | some s =>
    .opening e.head :: ((if s.toList.isEmpty then [] else [.text s.toList])
      ++ [.closing e.tag.name.toList])

/-! ## Reading with references replaced -/

theorem Attribute.IsSafe.takes {a : Attribute} (h : a.IsSafe) : strict.Takes a := by
  obtain ⟨s, hs⟩ := h.value
  constructor
  case name => exact h.name
  case closed =>
    rw [hs]
    exact bracket_not_mem_escape s '"' (by decide)
  case value =>
    show (unescape? a.value.toList).isSome = true
    rw [hs, unescape?_escape]
    rfl

theorem pieces_strict (e : Element) : strict.pieces e = e.pieces := by
  unfold Reader.pieces Element.pieces
  cases e.content with
  | none => rfl
  | some s =>
    show _ :: ((textPieces? (escape s.toList)).getD [] ++ _) = _
    rw [textPieces?_escape]
    rfl

theorem children?_append (root : List Char) (e : Element) (r : List Piece) :
    children? root (e.pieces ++ r) = (children? root r).map (e.view :: ·) := by
  unfold Element.pieces Element.view
  cases e.content with
  | none => rfl
  | some s =>
    simp only [Option.map_some]
    cases s.toList with
    | nil => exact if_pos rfl
    | cons c t => exact if_pos rfl

theorem children?_pieces (root : List Char) (es : List Element) :
    children? root (es.flatMap Element.pieces ++ [.closing root]) =
      some (es.map Element.view) := by
  induction es with
  | nil => exact if_pos rfl
  | cons e es ih =>
    rw [List.flatMap_cons, List.append_assoc, children?_append, ih]
    rfl

/-! ## Drawings -/

/-- A drawing as it is read. -/
def view (d : Drawing) : Root :=
  ⟨⟨rootName, d.attributes.map Attribute.view⟩, d.elements.map Element.view⟩

/-- **A drawing is read as its root with its elements.** -/
theorem root?_chars {d : Drawing} (hattributes : ∀ a ∈ d.attributes, a.IsSafe)
    (helements : ∀ e ∈ d.elements, e.IsSafe) : root? d.chars = some d.view := by
  have hrun : run (.text []) d.chars = some (.opening d.view.head ::
      (d.elements.flatMap Element.pieces ++ [.closing rootName])) := by
    rw [← run_strict, Reader.run_chars (fun a ha => (hattributes a ha).takes) fun e he a ha =>
      ((helements e he).attributes a ha).takes, funext pieces_strict]
    rfl
  rw [root?, hrun]
  show (children? rootName _).map _ = _
  rw [children?_pieces]
  rfl

end Infochart.Drawing
