import Infochart.Proofs.Drawing.Scan

/-!
# Readers of markup

Where a tag begins and ends does not depend on what its values say, nor on the texts around it. A
`Reader` goes through markup as `Scan.run` does and may take values and texts in a way of its own: with
their references replaced, or as they stand. Whatever it takes, a value without a quote is read up to
the quote behind it, so every element is read up to its end, in front of any rest.
-/

namespace Infochart.Drawing

open Scan

namespace Scan

/-- What is made of a value, and of a text between two tags. Between tags there may be nothing, or any
    text that has been escaped. -/
structure Reader where
  value? : List Char → Option (List Char)
  text? : List Char → Option (List Piece)
  text?_nil : text? [] = some []
  isSome_text?_escape : ∀ s, (text? (escape s)).isSome = true

namespace Reader

variable (R : Reader)

/-- One character. Only the ends of texts and of values depend on the reader. -/
def step : Mode → Char → Option (List Piece × Mode)
  | .text raw, c =>
    if c = '<' then (R.text? raw).map fun pieces => (pieces, .name [])
    else some ([], .text (raw ++ [c]))
  | .value head key raw, c =>
    if c = '"' then (R.value? raw).map fun s => ([], .inside (head.add key s))
    else some ([], .value head key (raw ++ [c]))
  | m, c => Scan.step m c

def run : Mode → List Char → Option (List Piece)
  | m, [] => if m = .text [] then some [] else none
  | m, c :: r => (R.step m c).bind fun (pieces, next) => (run next r).map (pieces ++ ·)

end Reader

theorem textPieces?_escape (s : List Char) :
    textPieces? (escape s) = some (if s.isEmpty then [] else [.text s]) := by
  unfold textPieces?
  cases s with
  | nil => rfl
  | cons c s =>
    have hne : (escape (c :: s)).isEmpty = false := by
      rw [← Bool.not_eq_true, List.isEmpty_iff]
      intro hnil
      have hback := unescape?_escape (c :: s)
      rw [hnil] at hback
      cases hback
    rw [hne, unescape?_escape]
    rfl

/-- The reader that replaces references. -/
def strict : Reader where
  value? := unescape?
  text? := textPieces?
  text?_nil := rfl
  isSome_text?_escape s := by rw [textPieces?_escape]; rfl

theorem run_strict (m : Mode) (s : List Char) : strict.run m s = Scan.run m s := by
  have hstep : ∀ m c, strict.step m c = Scan.step m c := by
    intro m c
    cases m <;> rfl
  induction s generalizing m with
  | nil => rfl
  | cons c r ih =>
    rw [Reader.run, Scan.run, hstep]
    simp only [ih]

end Scan

/-! ## Parts that can be read -/

def IsName (name : List Char) : Prop :=
  name ≠ [] ∧ ∀ c ∈ name, isNameChar c = true

instance (name : List Char) : Decidable (IsName name) :=
  inferInstanceAs (Decidable (_ ∧ _))

theorem isName_tag (t : Tag) : IsName t.name.toList := by
  cases t <;> decide

/-- The name of the element that holds all others. -/
def rootName : List Char := "svg".toList

theorem isName_rootName : IsName rootName := by
  decide

namespace Scan.Reader

variable (R : Reader)

/-- An attribute that ends where its value does, with a value that the reader takes. -/
structure Takes (a : Attribute) : Prop where
  name : IsName a.name.toList
  closed : '"' ∉ a.value.toList
  value : (R.value? a.value.toList).isSome = true

/-- An attribute as it is read. -/
def view (a : Attribute) : List Char × List Char :=
  (a.name.toList, (R.value? a.value.toList).getD [])

def head (e : Element) : Head :=
  ⟨e.tag.name.toList, e.attributes.map R.view⟩

/-- The pieces of an element. -/
def pieces (e : Element) : List Piece :=
  match e.content with
  | none => [.single (R.head e)]
  | some s =>
    .opening (R.head e) :: ((R.text? (escape s.toList)).getD [] ++ [.closing e.tag.name.toList])

variable {R}

/-! ## Steps -/

theorem run_cons {m next : Mode} {c : Char} {pieces : List Piece}
    (h : R.step m c = some (pieces, next)) (r : List Char) :
    R.run m (c :: r) = (R.run next r).map (pieces ++ ·) := by
  rw [run, h, Option.bind_some]

/-- A step that ends no piece. -/
theorem run_silent {m next : Mode} {c : Char} (h : R.step m c = some ([], next)) (r : List Char) :
    R.run m (c :: r) = R.run next r := by
  rw [run_cons h]
  exact Option.map_id'

/-- **Characters that a mode collects are read as a whole.** -/
theorem run_collect {mode : List Char → Mode} {cs : List Char}
    (h : ∀ c ∈ cs, ∀ raw, R.step (mode raw) c = some ([], mode (raw ++ [c]))) (raw r : List Char) :
    R.run (mode raw) (cs ++ r) = R.run (mode (raw ++ cs)) r := by
  induction cs generalizing raw with
  | nil => rw [List.append_nil, List.nil_append]
  | cons c cs ih =>
    have hrest := ih (fun d hd => h d (List.mem_cons_of_mem c hd)) (raw ++ [c])
    rw [List.cons_append, run_silent (h c List.mem_cons_self raw), hrest, List.append_assoc,
      List.singleton_append]

/-! ## Names, values, texts -/

/-- Behind the name of a tag it goes on as behind a value. -/
theorem run_name {read : List Char} {c : Char} (hread : read ≠ []) (hc : isNameChar c = false)
    (r : List Char) : R.run (.name read) (c :: r) = R.run (.inside ⟨read, []⟩) (c :: r) := by
  have hstep : R.step (.name read) c = R.step (.inside ⟨read, []⟩) c := by
    show Scan.step (.name read) c = Scan.step (.inside ⟨read, []⟩) c
    rw [Scan.step, hc, if_neg Bool.false_ne_true,
      if_neg (by rw [List.isEmpty_iff]; exact hread), Scan.step]
  rw [run, run, hstep]

theorem run_tagName {name : List Char} (h : IsName name) (r : List Char) :
    R.run (.name []) (name ++ r) = R.run (.name name) r := by
  refine run_collect (fun c hc raw => ?_) [] r
  show Scan.step (.name raw) c = _
  rw [Scan.step, h.2 c hc, if_pos rfl]

theorem run_closingName {name : List Char} (h : IsName name) (r : List Char) :
    R.run (.closing []) (name ++ r) = R.run (.closing name) r := by
  refine run_collect (fun c hc raw => ?_) [] r
  show Scan.step (.closing raw) c = _
  rw [Scan.step, h.2 c hc, if_pos rfl]

theorem run_key {key : List Char} (h : IsName key) (head : Head) (r : List Char) :
    R.run (.key head []) (key ++ r) = R.run (.key head key) r := by
  refine run_collect (fun c hc raw => ?_) [] r
  show Scan.step (.key head raw) c = _
  rw [Scan.step, h.2 c hc, if_pos rfl]

/-- A value is read up to the next quote. -/
theorem run_value {raw value : List Char} (hclosed : '"' ∉ raw) (hvalue : R.value? raw = some value)
    (head : Head) (key r : List Char) :
    R.run (.value head key []) (raw ++ '"' :: r) = R.run (.inside (head.add key value)) r := by
  have hcollect : ∀ c ∈ raw, ∀ read,
      R.step (.value head key read) c = some ([], .value head key (read ++ [c])) := by
    intro c hc read
    have hquote : c ≠ '"' := by
      rintro rfl
      exact hclosed hc
    rw [step, if_neg hquote]
  rw [run_collect hcollect, List.nil_append]
  refine run_silent ?_ r
  rw [step, if_pos rfl, hvalue]
  rfl

/-- A text is read up to the next tag. -/
theorem run_text (s r : List Char) :
    R.run (.text []) (escape s ++ '<' :: r) =
      (R.run (.name []) r).map ((R.text? (escape s)).getD [] ++ ·) := by
  have hcollect : ∀ c ∈ escape s, ∀ raw, R.step (.text raw) c = some ([], .text (raw ++ [c])) := by
    intro c hc raw
    have hbracket : c ≠ '<' := by
      rintro rfl
      exact bracket_not_mem_escape s '<' (by decide) hc
    rw [step, if_neg hbracket]
  rw [run_collect hcollect, List.nil_append]
  obtain ⟨pieces, hpieces⟩ := Option.isSome_iff_exists.1 (R.isSome_text?_escape s)
  rw [hpieces, Option.getD_some]
  refine run_cons ?_ r
  rw [step, if_pos rfl, hpieces]
  rfl

/-! ## Tags -/

/-- **An attribute is read up to its value, whatever that is.** -/
theorem run_attributeName {a : Attribute} (h : IsName a.name.toList) (head : Head) (r : List Char) :
    R.run (.inside head) (a.chars ++ r) =
      R.run (.value head a.name.toList []) (a.value.toList ++ '"' :: r) := by
  have hchars : a.chars ++ r =
      ' ' :: (a.name.toList ++ '=' :: '"' :: (a.value.toList ++ '"' :: r)) := by
    unfold Attribute.chars
    simp only [List.cons_append, List.append_assoc, List.nil_append]
  have hequals : R.step (.key head a.name.toList) '=' = some ([], .equals head a.name.toList) := by
    have hfilled : a.name.toList.isEmpty = false := by
      rw [← Bool.not_eq_true, List.isEmpty_iff]
      exact h.1
    show Scan.step (.key head a.name.toList) '=' = _
    rw [Scan.step, hfilled]
    rfl
  calc R.run (.inside head) (a.chars ++ r)
      = R.run (.key head []) (a.name.toList ++ '=' :: '"' :: (a.value.toList ++ '"' :: r)) := by
        rw [hchars]
        exact run_silent rfl _
    _ = R.run (.equals head a.name.toList) ('"' :: (a.value.toList ++ '"' :: r)) := by
        rw [run_key h]
        exact run_silent hequals _
    _ = R.run (.value head a.name.toList []) (a.value.toList ++ '"' :: r) := run_silent rfl _

/-- **An attribute is read as its name with its value.** -/
theorem run_attribute {a : Attribute} (h : R.Takes a) (head : Head) (r : List Char) :
    R.run (.inside head) (a.chars ++ r) =
      R.run (.inside (head.add a.name.toList (R.view a).2)) r := by
  obtain ⟨value, hvalue⟩ := Option.isSome_iff_exists.1 h.value
  rw [run_attributeName h.name, run_value h.closed hvalue]
  unfold view
  rw [hvalue, Option.getD_some]

theorem run_attributes {as : List Attribute} (h : ∀ a ∈ as, R.Takes a) (head : Head)
    (r : List Char) :
    R.run (.inside head) (as.flatMap Attribute.chars ++ r) =
      R.run (.inside ⟨head.name, head.attributes ++ as.map R.view⟩) r := by
  induction as generalizing head with
  | nil => rw [List.map_nil, List.append_nil]; rfl
  | cons a as ih =>
    rw [List.flatMap_cons, List.append_assoc, run_attribute (h a List.mem_cons_self),
      ih fun b hb => h b (List.mem_cons_of_mem a hb)]
    unfold Head.add
    rw [List.append_assoc]
    rfl

/-- A tag up to its attributes, whatever these are. -/
theorem run_tagStart {name : List Char} (hname : IsName name) (as : List Attribute) {c : Char}
    (hc : isNameChar c = false) (r : List Char) :
    R.run (.name []) (name ++ (as.flatMap Attribute.chars ++ c :: r)) =
      R.run (.inside ⟨name, []⟩) (as.flatMap Attribute.chars ++ c :: r) := by
  -- The name ends at a blank if there is an attribute, and otherwise where the attributes end.
  obtain ⟨d, t, hrest, hd⟩ : ∃ d t, as.flatMap Attribute.chars ++ c :: r = d :: t ∧
      isNameChar d = false := by
    cases as with
    | nil => exact ⟨c, r, rfl, hc⟩
    | cons a as => exact ⟨' ', _, rfl, rfl⟩
  rw [run_tagName hname, hrest, run_name hname.1 hd]

/-- A tag up to its end. -/
theorem run_tag {name : List Char} {as : List Attribute} (hname : IsName name)
    (has : ∀ a ∈ as, R.Takes a) {c : Char} (hc : isNameChar c = false) (r : List Char) :
    R.run (.name []) (name ++ (as.flatMap Attribute.chars ++ c :: r)) =
      R.run (.inside ⟨name, as.map R.view⟩) (c :: r) := by
  rw [run_tagStart hname as hc, run_attributes has]
  rfl

/-! ## Elements -/

/-- From one tag to the next there is nothing to take. -/
theorem run_bracket (r : List Char) : R.run (.text []) ('<' :: r) = R.run (.name []) r := by
  refine run_silent ?_ r
  rw [step, if_pos rfl, R.text?_nil]
  rfl

theorem run_closingTag {name : List Char} (h : IsName name) (r : List Char) :
    R.run (.name []) ('/' :: (name ++ '>' :: r)) =
      (R.run (.text []) r).map ([.closing name] ++ ·) := by
  rw [run_silent rfl, run_closingName h]
  exact run_cons rfl r

/-- **An element, in front of any rest.** -/
theorem run_element {e : Element} (h : ∀ a ∈ e.attributes, R.Takes a) (r : List Char) :
    R.run (.text []) (e.chars ++ r) = (R.run (.text []) r).map (R.pieces e ++ ·) := by
  have hname := isName_tag e.tag
  unfold Element.chars pieces
  cases hcontent : e.content with
  | none =>
    simp only [List.cons_append, List.append_assoc, List.nil_append]
    rw [run_bracket, run_tag hname h rfl]
    calc R.run (.inside (R.head e)) ('/' :: '>' :: r)
        = R.run (.slash (R.head e)) ('>' :: r) := run_silent rfl _
      _ = (R.run (.text []) r).map ([.single (R.head e)] ++ ·) := run_cons rfl _
  | some s =>
    simp only [List.cons_append, List.append_assoc, List.nil_append]
    rw [run_bracket, run_tag hname h rfl]
    calc R.run (.inside (R.head e)) ('>' :: (escape s.toList ++ '<' :: '/' ::
            (e.tag.name.toList ++ '>' :: r)))
        = (R.run (.text []) (escape s.toList ++ '<' :: '/' :: (e.tag.name.toList
            ++ '>' :: r))).map ([.opening (R.head e)] ++ ·) := run_cons rfl _
      _ = _ := by
        rw [run_text, run_closingTag hname, Option.map_map, Option.map_map]
        congr 1

theorem run_elements {es : List Element} (h : ∀ e ∈ es, ∀ a ∈ e.attributes, R.Takes a)
    (r : List Char) :
    R.run (.text []) (es.flatMap Element.chars ++ r) =
      (R.run (.text []) r).map (es.flatMap R.pieces ++ ·) := by
  induction es with
  | nil => exact Option.map_id'.symm
  | cons e es ih =>
    rw [List.flatMap_cons, List.append_assoc, run_element (h e List.mem_cons_self),
      ih fun b hb => h b (List.mem_cons_of_mem e hb), Option.map_map, List.flatMap_cons]
    congr 1
    funext t
    rw [Function.comp_apply, List.append_assoc]

/-! ## Drawings -/

/-- The tag of the root. -/
def rootHead (R : Reader) (d : Drawing) : Head :=
  ⟨rootName, d.attributes.map R.view⟩

/-- The root is read up to its elements. -/
theorem run_root {d : Drawing} (h : ∀ a ∈ d.attributes, R.Takes a) :
    R.run (.text []) d.chars =
      (R.run (.text []) (d.elements.flatMap Element.chars ++ "</svg>".toList)).map
        ([.opening (R.rootHead d)] ++ ·) := by
  have hopening : "<svg".toList = '<' :: rootName := rfl
  have hstep : R.step (.inside (R.rootHead d)) '>' = some ([.opening (R.rootHead d)], .text []) := rfl
  unfold Drawing.chars
  rw [hopening]
  simp only [List.cons_append, List.append_assoc]
  rw [run_bracket, run_tag isName_rootName h rfl]
  exact run_cons hstep _

/-- Behind the elements there is the closing tag of the root. -/
theorem run_rest : R.run (.text []) "</svg>".toList = some [.closing rootName] := by
  have hclosing : "</svg>".toList = '<' :: '/' :: (rootName ++ ['>']) := rfl
  rw [hclosing, run_bracket, run_closingTag isName_rootName]
  rfl

/-- **A drawing is read as its root with its elements in it.** -/
theorem run_chars {d : Drawing} (hattributes : ∀ a ∈ d.attributes, R.Takes a)
    (helements : ∀ e ∈ d.elements, ∀ a ∈ e.attributes, R.Takes a) :
    R.run (.text []) d.chars = some (.opening (R.rootHead d) ::
      (d.elements.flatMap R.pieces ++ [.closing rootName])) := by
  rw [run_root hattributes, run_elements helements, run_rest]
  rfl

end Scan.Reader

end Infochart.Drawing
