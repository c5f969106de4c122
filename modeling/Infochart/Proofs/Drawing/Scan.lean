import Infochart.Drawing.Element

/-!
# Scanning markup

A reader of markup that knows nothing of the writer. It takes one character after the other, and what
a character means depends on the mode alone: between two tags, in a name, in a value. A text ends
nowhere but at a `<`, and a value nowhere but at a quote, so a text becomes markup only by holding
one of these characters; and what stands for them in the writer's texts, `unescape?` turns back.
-/

namespace Infochart.Drawing
namespace Scan

/-! ## References -/

/-- The names of the characters that cannot stand for themselves. -/
def references : List (List Char × Char) :=
  [("amp".toList, '&'), ("lt".toList, '<'), ("gt".toList, '>'), ("quot".toList, '"'),
   ("apos".toList, '\'')]

/-- Replaces references by their characters; `name` is what has been read of a reference. -/
def unescapeFrom : Option (List Char) → List Char → Option (List Char)
  | none, [] => some []
  | some _, [] => none
  | none, c :: r =>
    if c = '&' then unescapeFrom (some []) r
    else if c = '<' then none
    else (unescapeFrom none r).map (c :: ·)
  | some name, c :: r =>
    if c = ';' then do
      let d ← references.lookup name
      (unescapeFrom none r).map (d :: ·)
    else unescapeFrom (some (name ++ [c])) r

/-- A text of markup with its references replaced. There is none with a `<`, or with a `&` that
    begins no reference. -/
def unescape? (s : List Char) : Option (List Char) :=
  unescapeFrom none s

/-! ## Pieces -/

/-- What a tag says: its name, and its attributes with their values. -/
structure Head where
  name : List Char
  attributes : List (List Char × List Char) := []
  deriving DecidableEq, Repr

def Head.add (h : Head) (key value : List Char) : Head :=
  { h with attributes := h.attributes ++ [(key, value)] }

inductive Piece where
  | opening (head : Head)
  | single (head : Head)
  | closing (name : List Char)
  | text (content : List Char)
  deriving DecidableEq, Repr

/-- Where a reader is in a text of markup, with what it has read there. -/
inductive Mode where
  /-- Between two tags. -/
  | text (raw : List Char)
  /-- Behind the `<` of a tag. -/
  | name (read : List Char)
  /-- Behind the `</` of a closing tag. -/
  | closing (read : List Char)
  /-- In a tag, behind its name or a value. -/
  | inside (head : Head)
  /-- Behind a blank in a tag. -/
  | key (head : Head) (read : List Char)
  /-- Behind the equals sign of an attribute. -/
  | equals (head : Head) (key : List Char)
  /-- Behind the first quote of a value. -/
  | value (head : Head) (key raw : List Char)
  /-- Behind the slash at the end of a tag. -/
  | slash (head : Head)
  deriving DecidableEq, Repr

def isNameChar (c : Char) : Bool :=
  c.isAlphanum || c == '-'

/-- A text between two tags, unless there is nothing between them. -/
def textPieces? (raw : List Char) : Option (List Piece) :=
  if raw.isEmpty then some [] else (unescape? raw).map fun s => [.text s]

/-- One character inside a tag, where neither a name nor a value is open. -/
def stepInside (head : Head) (c : Char) : Option (List Piece × Mode) :=
  if c = ' ' then some ([], .key head [])
  else if c = '/' then some ([], .slash head)
  else if c = '>' then some ([.opening head], .text [])
  else none

/-- One character: the pieces that it ends, and the mode behind it. -/
def step : Mode → Char → Option (List Piece × Mode)
  | .text raw, c =>
    if c = '<' then (textPieces? raw).map fun pieces => (pieces, .name [])
    else some ([], .text (raw ++ [c]))
  | .name read, c =>
    if isNameChar c then some ([], .name (read ++ [c]))
    else if read.isEmpty then if c = '/' then some ([], .closing []) else none
    else stepInside ⟨read, []⟩ c
  | .closing read, c =>
    if isNameChar c then some ([], .closing (read ++ [c]))
    else if c = '>' then some ([.closing read], .text [])
    else none
  | .inside head, c => stepInside head c
  | .key head read, c =>
    if isNameChar c then some ([], .key head (read ++ [c]))
    else if c = '=' && !read.isEmpty then some ([], .equals head read)
    else none
  | .equals head key, c => if c = '"' then some ([], .value head key []) else none
  | .value head key raw, c =>
    if c = '"' then (unescape? raw).map fun s => ([], .inside (head.add key s))
    else some ([], .value head key (raw ++ [c]))
  | .slash head, c => if c = '>' then some ([.single head], .text []) else none

/-- The pieces of a text that is read from some mode on. It must end with a tag. -/
def run : Mode → List Char → Option (List Piece)
  | m, [] => if m = .text [] then some [] else none
  | m, c :: r => (step m c).bind fun (pieces, next) => (run next r).map (pieces ++ ·)

/-! ## Elements -/

/-- An element inside the root: its tag, and the text in it unless it is closed at once. -/
structure Node where
  head : Head
  content : Option (List Char)
  deriving DecidableEq, Repr

/-- The elements up to the closing tag of the one around them, which must be the last piece. -/
def children? (root : List Char) : List Piece → Option (List Node)
  | [.closing name] => if name = root then some [] else none
  | .single head :: r => (children? root r).map (⟨head, none⟩ :: ·)
  | .opening head :: .closing name :: r =>
    if name = head.name then (children? root r).map (⟨head, some []⟩ :: ·) else none
  | .opening head :: .text s :: .closing name :: r =>
    if name = head.name then (children? root r).map (⟨head, some s⟩ :: ·) else none
  | _ => none

/-- An element with elements in it that have none themselves. -/
structure Root where
  head : Head
  children : List Node
  deriving DecidableEq, Repr

/-- Reads a text that is one element, from its first to its last character. -/
def root? (s : List Char) : Option Root :=
  match run (.text []) s with
  | some (.opening head :: r) => (children? head.name r).map (⟨head, ·⟩)
  | _ => none

/-- A text that holds a tag is no text, but an element that is not where one may be. -/
example : root? "<svg><text>a<b>c</b></text></svg>".toList = none := by
  decide

/-! ## Escapes -/

/-- **One escaped character, in front of any rest.** -/
theorem unescape?_escapeChar (c : Char) (r : List Char) :
    unescape? (escapeChar c ++ r) = (unescape? r).map (c :: ·) := by
  -- The cases are those of the writer: five references, and the rest.
  by_cases hamp : c = '&'
  · subst hamp
    rfl
  by_cases hlt : c = '<'
  · subst hlt
    rfl
  by_cases hgt : c = '>'
  · subst hgt
    rfl
  by_cases hquot : c = '"'
  · subst hquot
    rfl
  by_cases hapos : c = '\''
  · subst hapos
    rfl
  have hplain : escapeChar c = [c] := by
    unfold escapeChar
    rw [if_neg hamp, if_neg hlt, if_neg hgt, if_neg hquot, if_neg hapos]
  rw [hplain, List.singleton_append]
  unfold unescape?
  rw [unescapeFrom, if_neg hamp, if_neg hlt]

/-- **Unescaping gives back the text that has been escaped.** -/
theorem unescape?_escape (s : List Char) : unescape? (escape s) = some s := by
  induction s with
  | nil => rfl
  | cons c s ih =>
    have hcons : escape (c :: s) = escapeChar c ++ escape s := List.flatMap_cons
    rw [hcons, unescape?_escapeChar, ih]
    rfl

/-- What holds of each character of a text is decided by going through the text, and never by going
    through all characters. -/
instance decidableForallMem (p : Char → Prop) [DecidablePred p] (s : List Char) :
    Decidable (∀ c ∈ s, p c) :=
  List.decidableBAll p s

/-- The characters that markup is made of, and that no escaped text holds. -/
def brackets : List Char := ['<', '>', '"', '\'']

theorem bracket_not_mem_escapeChar (c : Char) : ∀ b ∈ brackets, b ∉ escapeChar c := by
  intro b hb
  unfold escapeChar
  split
  · revert b hb; decide
  split
  · revert b hb; decide
  split
  · revert b hb; decide
  split
  · revert b hb; decide
  split
  · revert b hb; decide
  · intro hmem
    rw [List.mem_singleton] at hmem
    subst hmem
    simp_all [brackets]

theorem bracket_not_mem_escape (s : List Char) : ∀ b ∈ brackets, b ∉ escape s := by
  intro b hb hmem
  obtain ⟨c, -, hc⟩ := List.mem_flatMap.1 hmem
  exact bracket_not_mem_escapeChar c b hb hc

/-- A text with every occurrence of a character replaced. -/
def replaceAll (c : Char) (replacement : String) (s : List Char) : List Char :=
  s.flatMap fun d => if d = c then replacement.toList else [d]

/-- Escaping is replacing one character after the other, as long as `&` comes first. -/
theorem escape_eq_replaceAll (s : List Char) :
    escape s = replaceAll '\'' "&apos;" (replaceAll '"' "&quot;" (replaceAll '>' "&gt;"
      (replaceAll '<' "&lt;" (replaceAll '&' "&amp;" s)))) := by
  unfold replaceAll escape
  rw [List.flatMap_assoc, List.flatMap_assoc, List.flatMap_assoc, List.flatMap_assoc]
  congr 1
  funext c
  unfold escapeChar
  by_cases hamp : c = '&'
  · subst hamp
    decide
  by_cases hlt : c = '<'
  · subst hlt
    decide
  by_cases hgt : c = '>'
  · subst hgt
    decide
  by_cases hquot : c = '"'
  · subst hquot
    decide
  by_cases hapos : c = '\''
  · subst hapos
    decide
  simp only [if_neg hamp, if_neg hlt, if_neg hgt, if_neg hquot, if_neg hapos,
    List.flatMap_singleton]

end Scan
end Infochart.Drawing
