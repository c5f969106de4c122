import Infochart.Proofs.Drawing.Reading

/-!
# Outlines

What a drawing is made of, apart from what it says: the names of its elements and of their attributes.
The reader here takes values as they stand and passes over texts, so it finds fault with nothing that is
said between quotes; and still it finds every value where it was written if and only if no value has a
quote in it. For a value with a quote ends there, and what stands behind it is read as markup.
-/

namespace Infochart.Drawing

open Scan

namespace Scan

/-! ## Tags -/

/-- The reader that takes values as they stand and passes over texts. -/
def raw : Reader where
  value? := some
  text? _ := some []
  text?_nil := rfl
  isSome_text?_escape _ := rfl

def Piece.tag? : Piece → Option Head
  | .opening head => some head
  | .single head => some head
  | _ => none

/-- The tags of a text of markup but for the closing ones, with the values that stand in them. -/
def tags? (s : List Char) : Option (List Head) :=
  (raw.run (.text []) s).map (List.filterMap Piece.tag?)

/-- The name of an element, and those of its attributes. -/
def Head.names (h : Head) : List Char × List (List Char) :=
  (h.name, h.attributes.map Prod.fst)

/-- The names of the elements of a text of markup in their order, each with those of its attributes. -/
def outline? (s : List Char) : Option (List (List Char × List (List Char))) :=
  (tags? s).map (List.map Head.names)

/-- What has been read of a tag that has not ended. -/
def Mode.head? : Mode → Option Head
  | .inside head | .key head _ | .equals head _ | .value head _ _ | .slash head => some head
  | _ => none

end Scan

/-! ## What has been read stays -/

section Kept

variable {R : Reader} {m : Mode} {head : Head}

/-- One character inside a tag ends the tag, or leaves it open with what has been read of it. -/
theorem kept_step (hm : m.head? = some head) {c : Char} {pieces : List Piece} {next : Mode}
    (h : R.step m c = some (pieces, next)) :
    pieces.filterMap Piece.tag? = [head] ∨ pieces = [] ∧
      ∃ head', next.head? = some head' ∧ head.attributes <+: head'.attributes := by
  cases m with
  | text raw => cases hm
  | name read => cases hm
  | closing read => cases hm
  | inside head =>
    cases hm
    replace h : Scan.stepInside head c = _ := h
    unfold Scan.stepInside at h
    split at h
    · cases h
      exact .inr ⟨rfl, head, rfl, List.prefix_rfl⟩
    split at h
    · cases h
      exact .inr ⟨rfl, head, rfl, List.prefix_rfl⟩
    split at h
    · cases h
      exact .inl rfl
    · cases h
  | key head read =>
    cases hm
    replace h : Scan.step (.key head read) c = _ := h
    rw [Scan.step] at h
    split at h
    · cases h
      exact .inr ⟨rfl, head, rfl, List.prefix_rfl⟩
    split at h
    · cases h
      exact .inr ⟨rfl, head, rfl, List.prefix_rfl⟩
    · cases h
  | equals head key =>
    cases hm
    replace h : Scan.step (.equals head key) c = _ := h
    rw [Scan.step] at h
    split at h
    · cases h
      exact .inr ⟨rfl, head, rfl, List.prefix_rfl⟩
    · cases h
  | value head key raw =>
    cases hm
    rw [Reader.step] at h
    split at h
    · obtain ⟨s, -, hs⟩ := Option.map_eq_some_iff.1 h
      cases hs
      exact .inr ⟨rfl, _, rfl, List.prefix_append _ _⟩
    · cases h
      exact .inr ⟨rfl, head, rfl, List.prefix_rfl⟩
  | slash head =>
    cases hm
    replace h : Scan.step (.slash head) c = _ := h
    rw [Scan.step] at h
    split at h
    · cases h
      exact .inl rfl
    · cases h

/-- **A tag that has been begun is the next one, with the attributes that have been read.** -/
theorem kept_run (hm : m.head? = some head) {s : List Char} {pieces : List Piece}
    (h : R.run m s = some pieces) :
    ∃ tag rest, pieces.filterMap Piece.tag? = tag :: rest ∧ head.attributes <+: tag.attributes := by
  induction s generalizing m head pieces with
  | nil =>
    rw [Reader.run] at h
    split at h
    case isTrue htext =>
      rw [htext] at hm
      cases hm
    case isFalse => cases h
  | cons c r ih =>
    rw [Reader.run] at h
    obtain ⟨⟨ended, next⟩, hstep, h⟩ := Option.bind_eq_some_iff.1 h
    obtain ⟨rest, hrest, rfl⟩ := Option.map_eq_some_iff.1 h
    rw [List.filterMap_append]
    rcases kept_step hm hstep with htag | ⟨hnone, head', hhead, hprefix⟩
    · rw [htag]
      exact ⟨head, _, rfl, List.prefix_rfl⟩
    · subst hnone
      obtain ⟨tag, later, htag, hlater⟩ := ih hhead hrest
      exact ⟨tag, later, htag, hprefix.trans hlater⟩

end Kept

/-! ## What is written -/

def Attribute.written (a : Attribute) : List Char × List Char :=
  (a.name.toList, a.value.toList)

/-- The tag of an element as it is written. -/
def Element.written (e : Element) : Head :=
  ⟨e.tag.name.toList, e.attributes.map Attribute.written⟩

/-- The tags of a drawing as they are written. -/
def tags (d : Drawing) : List Head :=
  ⟨rootName, d.attributes.map Attribute.written⟩ :: d.elements.map Element.written

theorem takes_raw {a : Attribute} (hname : IsName a.name.toList) (hclosed : '"' ∉ a.value.toList) :
    raw.Takes a :=
  ⟨hname, hclosed, rfl⟩

theorem filterMap_pieces (e : Element) : (raw.pieces e).filterMap Piece.tag? = [e.written] := by
  unfold Reader.pieces
  cases e.content <;> rfl

theorem filterMap_flatMap_pieces (es : List Element) :
    (es.flatMap raw.pieces).filterMap Piece.tag? = es.map Element.written := by
  rw [List.filterMap_flatMap, funext filterMap_pieces]
  exact List.map_eq_flatMap.symm

/-- Without quotes in their values, the tags are read as they are written. -/
theorem tags?_chars {d : Drawing} (hattributes : ∀ a ∈ d.attributes, raw.Takes a)
    (helements : ∀ e ∈ d.elements, ∀ a ∈ e.attributes, raw.Takes a) :
    tags? d.chars = some d.tags := by
  unfold tags?
  rw [Reader.run_chars hattributes helements, Option.map_some]
  congr 1
  show raw.rootHead d :: List.filterMap Piece.tag? (_ ++ _) = _
  rw [List.filterMap_append, filterMap_flatMap_pieces]
  exact congrArg _ (List.append_nil _)

/-! ## Values with quotes -/

/-- A text with a quote, up to the first one. -/
theorem exists_of_quote_mem {s : List Char} (h : '"' ∈ s) :
    ∃ before after, s = before ++ '"' :: after ∧ '"' ∉ before := by
  obtain ⟨before, after, hs, hbefore⟩ := List.eq_append_cons_of_mem h
  exact ⟨before, after, hs, hbefore⟩

/-- Attributes that are read as they are written have no quotes in their values. -/
theorem closed_of_attributes {as : List Attribute} (hnames : ∀ a ∈ as, IsName a.name.toList)
    {head tag : Head} {r : List Char} {pieces : List Piece} {rest : List Head}
    (hrun : raw.run (.inside head) (as.flatMap Attribute.chars ++ r) = some pieces)
    (htags : pieces.filterMap Piece.tag? = tag :: rest)
    (htag : tag.attributes = head.attributes ++ as.map Attribute.written) :
    ∀ a ∈ as, '"' ∉ a.value.toList := by
  induction as generalizing head with
  | nil => exact fun a ha => by cases ha
  | cons a as ih =>
    rw [List.forall_mem_cons] at hnames
    rw [List.flatMap_cons, List.append_assoc] at hrun
    have hclosed : '"' ∉ a.value.toList := by
      intro hquote
      obtain ⟨before, after, hvalue, hbefore⟩ := exists_of_quote_mem hquote
      -- The value ends at its first quote, and what was read of the tag by then stays.
      rw [Reader.run_attributeName hnames.1, hvalue, List.append_assoc, List.cons_append,
        Reader.run_value hbefore rfl] at hrun
      obtain ⟨tag', later, htag', read, hread⟩ := kept_run rfl hrun
      rw [htags] at htag'
      cases htag'
      rw [htag] at hread
      have hcons : (a.name.toList, before) :: read = a.written :: as.map Attribute.written :=
        List.append_cancel_left ((List.append_assoc _ _ _).symm.trans hread)
      have hsame : before = a.value.toList := congrArg Prod.snd (List.cons.inj hcons).1
      rw [hsame] at hbefore
      exact hbefore hquote
    have htakes := takes_raw hnames.1 hclosed
    rw [Reader.run_attribute htakes] at hrun
    rw [List.forall_mem_cons]
    refine ⟨hclosed, ih hnames.2 hrun ?_⟩
    rw [htag, List.map_cons]
    unfold Head.add
    rw [List.append_assoc]
    rfl

/-- An element up to its attributes, with the character behind them. -/
theorem run_elementStart {R : Reader} (e : Element) (r : List Char) : ∃ t,
    R.run (.text []) (e.chars ++ r) =
      R.run (.inside ⟨e.tag.name.toList, []⟩) (e.attributes.flatMap Attribute.chars ++ t) := by
  have hname := isName_tag e.tag
  unfold Element.chars
  cases e.content with
  | none =>
    refine ⟨'/' :: '>' :: r, ?_⟩
    simp only [List.cons_append, List.append_assoc, List.nil_append]
    rw [Reader.run_bracket, Reader.run_tagStart hname _ rfl]
  | some s =>
    refine ⟨'>' :: (escape s.toList ++ '<' :: '/' :: (e.tag.name.toList ++ '>' :: r)), ?_⟩
    simp only [List.cons_append, List.append_assoc, List.nil_append]
    rw [Reader.run_bracket, Reader.run_tagStart hname _ rfl]

/-- Elements that are read as they are written have no quotes in their values. -/
theorem closed_of_elements {es : List Element}
    (hnames : ∀ e ∈ es, ∀ a ∈ e.attributes, IsName a.name.toList) {r : List Char}
    {pieces : List Piece} {rest : List Head}
    (hrun : raw.run (.text []) (es.flatMap Element.chars ++ r) = some pieces)
    (htags : pieces.filterMap Piece.tag? = es.map Element.written ++ rest) :
    ∀ e ∈ es, ∀ a ∈ e.attributes, '"' ∉ a.value.toList := by
  induction es generalizing pieces with
  | nil => exact fun e he => by cases he
  | cons e es ih =>
    rw [List.forall_mem_cons] at hnames
    rw [List.flatMap_cons, List.append_assoc] at hrun
    have hclosed : ∀ a ∈ e.attributes, '"' ∉ a.value.toList := by
      obtain ⟨t, ht⟩ := run_elementStart (R := raw) e (es.flatMap Element.chars ++ r)
      rw [ht] at hrun
      exact closed_of_attributes hnames.1 hrun htags (List.nil_append _).symm
    have htakes : ∀ a ∈ e.attributes, raw.Takes a := fun a ha =>
      takes_raw (hnames.1 a ha) (hclosed a ha)
    rw [Reader.run_element htakes] at hrun
    obtain ⟨later, hlater, rfl⟩ := Option.map_eq_some_iff.1 hrun
    rw [List.filterMap_append, filterMap_pieces] at htags
    rw [List.forall_mem_cons]
    exact ⟨hclosed, ih hnames.2 hlater (List.cons.inj htags).2⟩

/-- **The tags of a drawing are read as they are written if and only if no value of its elements has a
    quote in it.** -/
theorem tags?_chars_iff {d : Drawing} (hattributes : ∀ a ∈ d.attributes, raw.Takes a)
    (hnames : ∀ e ∈ d.elements, ∀ a ∈ e.attributes, IsName a.name.toList) :
    tags? d.chars = some d.tags ↔ ∀ e ∈ d.elements, ∀ a ∈ e.attributes, '"' ∉ a.value.toList := by
  constructor
  case mpr =>
    intro hclosed
    exact tags?_chars hattributes fun e he a ha => takes_raw (hnames e he a ha) (hclosed e he a ha)
  case mp =>
    intro htags
    unfold tags? at htags
    rw [Reader.run_root hattributes, Option.map_map] at htags
    obtain ⟨pieces, hrun, hpieces⟩ := Option.map_eq_some_iff.1 htags
    have helements : pieces.filterMap Piece.tag? = d.elements.map Element.written ++ [] := by
      rw [List.append_nil]
      exact (List.cons.inj hpieces).2
    exact closed_of_elements hnames hrun helements

end Infochart.Drawing
