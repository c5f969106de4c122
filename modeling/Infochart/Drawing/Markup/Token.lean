import Infochart.Decimal.Numeral
import Infochart.Json.Reader
import Infochart.Text.Range
import Infochart.Text.Search

/-!
# Pieces of markup

A text of markup is a row of tags, of texts between them, and of notes that say nothing about the
document. `tokens?` reads it, with references replaced by what they stand for. Which tags belong
together is not its business.
-/

namespace Infochart.Drawing.Markup

def charRanges : List (Nat × Nat) :=
  [(9, 10), (13, 13), (0x20, 0xD7FF), (0xE000, 0xFFFD), (0x10000, 0x10FFFF)]

def nameStartRanges : List (Nat × Nat) :=
  [(0x41, 0x5A), (0x5F, 0x5F), (0x61, 0x7A), (0xC0, 0xD6), (0xD8, 0xF6), (0xF8, 0x2FF),
   (0x370, 0x37D), (0x37F, 0x1FFF), (0x200C, 0x200D), (0x2070, 0x218F), (0x2C00, 0x2FEF),
   (0x3001, 0xD7FF), (0xF900, 0xFDCF), (0xFDF0, 0xFFFD), (0x10000, 0xEFFFF)]

/-- The code points that a name may go on with, besides those it may begin with. -/
def namePartRanges : List (Nat × Nat) :=
  [(0x2D, 0x2E), (0x30, 0x39), (0xB7, 0xB7), (0x300, 0x36F), (0x203F, 0x2040)]

def isMarkupChar (c : Char) : Bool :=
  Text.inRanges charRanges c.toNat

def isNameStart (c : Char) : Bool :=
  Text.inRanges nameStartRanges c.toNat

def isNamePart (c : Char) : Bool :=
  isNameStart c || Text.inRanges namePartRanges c.toNat

def isTagBlank (c : Char) : Bool :=
  c == ' ' || c == '\t' || c == '\n' || c == '\r'

/-- The character that stands for code points that are none. -/
def replacement : Char := Char.ofNat 0xFFFD

/-- The character that a reference by number stands for: a number of 32 bits that is no character
    stands for the replacement, and what may not stand in markup cannot be referred to either. -/
def numbered? (n : Nat) : Option Char :=
  let c := if n.isValidChar then Char.ofNat n else replacement
  if n < Nat.pow 2 32 && isMarkupChar c then some c else none

/-- The character that a reference stands for, by the text between its ends. -/
def reference? : List Char → Option Char
  | ['a', 'm', 'p'] => some '&'
  | ['l', 't'] => some '<'
  | ['g', 't'] => some '>'
  | ['q', 'u', 'o', 't'] => some '"'
  | ['a', 'p', 'o', 's'] => some '\''
  | '#' :: 'x' :: digits =>
    if !digits.isEmpty && digits.all fun c => (Json.hexDigit? c).isSome then
      numbered? (digits.foldl (fun n c => 16 * n + (Json.hexDigit? c).getD 0) 0)
    else none
  | '#' :: digits =>
    if !digits.isEmpty && digits.all Char.isDigit then numbered? (Decimal.ofDigits digits) else none
  | _ => none

/-- Replaces references by what they stand for; `pending` is the part of a reference that has been
    read, backwards. -/
def unescapeFrom : Option (List Char) → List Char → Option (List Char)
  | none, [] => some []
  | some _, [] => none
  | none, c :: r =>
    if c = '&' then unescapeFrom (some []) r
    else if isMarkupChar c then (unescapeFrom none r).map (c :: ·)
    else none
  | some pending, c :: r =>
    if c = ';' then do
      let d ← reference? pending.reverse
      let rest ← unescapeFrom none r
      return d :: rest
    else unescapeFrom (some (c :: pending)) r

def unescape? (s : List Char) : Option (List Char) :=
  unescapeFrom none s

/-- A value with a blank in place of each tab and of each end of a line. -/
def flatten : List Char → List Char
  | [] => []
  | '\r' :: '\n' :: r => ' ' :: flatten r
  | c :: r => (if isTagBlank c then ' ' else c) :: flatten r

/-- A name, which may be qualified by a prefix in front of a colon. -/
structure Name where
  qualifier : List Char
  base : List Char
  deriving DecidableEq, Repr

inductive Token where
  | opening (name : Name) (attributes : List (Name × List Char))
  /-- An element that is closed at once. -/
  | single (name : Name) (attributes : List (Name × List Char))
  | closing (name : Name)
  | text (content : List Char)
  /-- A comment or an instruction. -/
  | note
  deriving DecidableEq, Repr

def beginsName (s : List Char) : Bool :=
  s.head?.any isNameStart

/-- Takes a name. It has one colon at most. -/
def takeName (s : List Char) : Option (Name × List Char) :=
  let isPart (c : Char) := c == ':' || isNamePart c
  let rest := s.dropWhile isPart
  match Text.splitFirst ':' (s.takeWhile isPart) with
  | none => if beginsName s then some (⟨[], s.takeWhile isPart⟩, rest) else none
  | some (qualifier, base) =>
    if (qualifier.isEmpty || beginsName qualifier) && beginsName base && !base.contains ':' then
      some (⟨qualifier, base⟩, rest)
    else none

/-- Takes the sign between a name and a value, with blanks around it. -/
def takeEquals (s : List Char) : Option (List Char) :=
  match s.dropWhile isTagBlank with
  | '=' :: r => some (r.dropWhile isTagBlank)
  | _ => none

def takeValue : List Char → Option (List Char × List Char)
  | q :: r =>
    if q = '"' ∨ q = '\'' then
      match r.dropWhile (· != q) with
      | _ :: rest =>
        let raw := r.takeWhile (· != q)
        if raw.contains '<' then none else (unescape? (flatten raw)).map (·, rest)
      | [] => none
    else none
  | [] => none

/-- Takes the attributes of a tag and its end. The flag says whether the element is closed at once. -/
def takeAttributes : Nat → List Char → Option (List (Name × List Char) × Bool × List Char)
  | 0, _ => none
  | fuel + 1, s =>
    match s.dropWhile isTagBlank with
    | '>' :: r => some ([], false, r)
    | '/' :: '>' :: r => some ([], true, r)
    | t =>
      if s.head?.any isTagBlank then do
        let (name, r) ← takeName t
        let r ← takeEquals r
        let (value, r) ← takeValue r
        let (attributes, closed, r) ← takeAttributes fuel r
        return ((name, value) :: attributes, closed, r)
      else none

/-- Takes the rest of a comment, up to and with its end. -/
def takeComment : List Char → Option (List Char)
  | '-' :: '-' :: '>' :: r => some r
  | '-' :: '-' :: _ => none
  | c :: r => if isMarkupChar c then takeComment r else none
  | [] => none

/-- Takes what stands in front of a pattern, and the pattern. -/
def takeUntil (pattern : List Char) : List Char → Option (List Char × List Char)
  | [] => none
  | c :: r =>
    if pattern.isPrefixOf (c :: r) then some ([], (c :: r).drop pattern.length)
    else if isMarkupChar c then (takeUntil pattern r).map fun (a, b) => (c :: a, b)
    else none

/-- Takes the rest of an instruction, up to and with its end. It begins with a name, and the one that
    opens a document has no place inside. -/
def takeInstruction (s : List Char) : Option (List Char) :=
  let isPart (c : Char) := c == ':' || isNamePart c
  if "xml ".toList.isPrefixOf s then none
  else if s.head?.any fun c => c == ':' || isNameStart c then
    (takeUntil ['?', '>'] (s.dropWhile isPart)).map (·.2)
  else none

/-- Takes a tag, behind its first character. -/
def takeTag (s : List Char) : Option (Token × List Char) := do
  let (name, r) ← takeName s
  let (attributes, closed, r) ← takeAttributes (r.length + 1) r
  return (if closed then .single name attributes else .opening name attributes, r)

/-- Takes a closing tag, behind its first two characters. -/
def takeClosing (s : List Char) : Option (Token × List Char) := do
  let (name, r) ← takeName s
  match r.dropWhile isTagBlank with
  | '>' :: r => return (.closing name, r)
  | _ => none

/-- Takes a text between tags. What ends a literal text may not stand in it. -/
def takeText (s : List Char) : Option (Token × List Char) :=
  let raw := s.takeWhile (· != '<')
  if Text.contains [']', ']', '>'] raw then none
  else (unescape? raw).map fun content => (.text content, s.dropWhile (· != '<'))

def takeToken : List Char → Option (Token × List Char)
  | '<' :: '!' :: '-' :: '-' :: r => (takeComment r).map (.note, ·)
  | '<' :: '!' :: '[' :: 'C' :: 'D' :: 'A' :: 'T' :: 'A' :: '[' :: r =>
    (takeUntil [']', ']', '>'] r).map fun (content, t) => (.text content, t)
  | '<' :: '?' :: r => (takeInstruction r).map (.note, ·)
  | '<' :: '/' :: r => takeClosing r
  | '<' :: r => takeTag r
  | s => takeText s

/-- The pieces of a text of markup, as many as the fuel allows. -/
def takeTokens : Nat → List Char → Option (List Token)
  | _, [] => some []
  | 0, _ :: _ => none
  | fuel + 1, s => do
    let (token, r) ← takeToken s
    let rest ← takeTokens fuel r
    return token :: rest

def tokens? (s : List Char) : Option (List Token) :=
  takeTokens s.length s

end Infochart.Drawing.Markup
