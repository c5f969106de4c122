import Infochart.Drawing.Markup.Token
import Infochart.Text.Join

/-!
# Trees of markup

The pieces of a document make up a tree: each opening tag has its closing tag, and one element holds
all the others. A qualified name stands for a name in a name space, which an attribute of the element
or of one around it declares; the tree has the name spaces in place of the qualifiers. `tree?` refuses
pieces whose tags do not match, whose qualifiers are not declared, or that give an element two
attributes of one name.
-/

namespace Infochart.Drawing.Markup

abbrev Space := List Char

/-- The name of a standard name space, by the steps that lead to it on the site of the standards. -/
def standardSpace (steps : List String) : Space :=
  Text.join '/' (("http:" :: "" :: "www.w3.org" :: steps).map String.toList)

/-- The name space of the attributes that every document knows. -/
def xmlSpace : Space := standardSpace ["XML", "1998", "namespace"]

def declarationSpace : Space := standardSpace ["2000", "xmlns", ""]

/-- The name spaces that are declared at some place, the innermost first. No qualifier is that of
    names without one. -/
abbrev Scope := List (Option (List Char) × Space)

/-- An attribute with its name space, if it has one. -/
structure Value where
  space : Option Space
  name : List Char
  content : List Char
  deriving DecidableEq, Repr

/-- What an opening tag says. The number tells it from all other tags of the document. -/
structure Head where
  number : Nat
  space : Option Space
  name : List Char
  values : List Value
  deriving DecidableEq, Repr

inductive Node where
  | element (head : Head) (children : List Node)
  /-- A text, a comment or an instruction. -/
  | note

/-- What the attributes of a tag come to: declarations and others. -/
structure Sorted where
  declared : Scope := []
  others : List (Name × List Char) := []

/-- Takes an attribute into account. Some names and name spaces belong together and with no others,
    and no qualifier is declared twice. -/
def Sorted.take (s : Sorted) : Name × List Char → Option Sorted
  | (name, content) =>
    if name.qualifier = "xmlns".toList then
      if content = declarationSpace then none
      else if (name.base == "xml".toList) != (content == xmlSpace) then none
      else if s.declared.any (·.1 == some name.base) then none
      else if content = xmlSpace then some s
      else some { s with declared := s.declared ++ [(some name.base, content)] }
    else if name.base = "xmlns".toList then
      if content = xmlSpace ∨ content = declarationSpace then none
      else some { s with declared := s.declared ++ [(none, content)] }
    else some { s with others := s.others ++ [(name, content)] }

/-- The name space of an attribute. One without a qualifier has none. -/
def valueSpace? (scope : Scope) (name : Name) : Option (Option Space) :=
  if name.qualifier.isEmpty then some none
  else if name.qualifier = "xml".toList then some (some xmlSpace)
  else (scope.lookup (some name.qualifier)).map some

/-- The name space of an element. One without a qualifier has that of its surroundings, if any. -/
def elementSpace? (scope : Scope) (name : Name) : Option (Option Space) :=
  if name.qualifier.isEmpty then some (scope.lookup none)
  else (scope.lookup (some name.qualifier)).map some

/-- The attributes of a tag with their name spaces, no two of them with one name. -/
def values? (scope : Scope) : List (Name × List Char) → Option (List Value)
  | [] => some []
  | (name, content) :: r => do
    let space ← valueSpace? scope name
    let rest ← values? scope r
    if rest.any fun v => v.space == space && v.name == name.base then none
    else return ⟨space, name.base, content⟩ :: rest

/-- What a tag says in its surroundings, and the name spaces inside it. -/
def head? (number : Nat) (scope : Scope) (name : Name) (attributes : List (Name × List Char)) :
    Option (Head × Scope) := do
  let sorted ← attributes.foldlM Sorted.take {}
  let inner := sorted.declared ++ scope
  let values ← values? inner sorted.others
  let space ← elementSpace? inner name
  return (⟨number, space, name.base, values⟩, inner)

/-- An element whose closing tag has not come yet. Its children are in reverse order. -/
structure Open where
  name : Name
  head : Head
  scope : Scope
  children : List Node

/-- Puts a node behind the children of the innermost open element, if there is one. -/
def addChild (n : Node) : List Open → Option (List Open)
  | [] => none
  | o :: r => some ({ o with children := n :: o.children } :: r)

/-- The tree of the pieces that remain, inside the elements that are open. Behind the outermost one
    only notes may follow. -/
def build : List Open → List Token → Option Node
  | _, [] => none
  | stack, token :: r =>
    let scope := (stack.head?.map Open.scope).getD []
    match token with
    | .opening name attributes => do
      let (head, inner) ← head? r.length scope name attributes
      build (⟨name, head, inner, []⟩ :: stack) r
    | .single name attributes => do
      let (head, _) ← head? r.length scope name attributes
      if stack.isEmpty then
        if r.all (· == .note) then some (.element head []) else none
      else
        let stack ← addChild (.element head []) stack
        build stack r
    | .closing name =>
      match stack with
      | [] => none
      | [o] =>
        if o.name = name ∧ r.all (· == .note) then some (.element o.head o.children.reverse)
        else none
      | o :: outer => do
        if o.name = name then
          let stack ← addChild (.element o.head o.children.reverse) outer
          build stack r
        else none
    | .text _ | .note => do
      let stack ← addChild .note stack
      build stack r

def tree? (s : List Char) : Option Node :=
  (tokens? s).bind (build [])

end Infochart.Drawing.Markup
