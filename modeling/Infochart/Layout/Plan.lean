import Infochart.Chart.Spec

/-!
# Plans

A plan is the part of a specification that a layout looks at, with the amounts as numbers of any kind.
-/

namespace Infochart.Layout

open Chart (Kind Orientation Spec)

/-- An entry of a series: the amount that it counts as and the text that it is shown as. -/
structure Entry (α : Type) where
  amount : α
  text : String
  deriving Repr

/-- A dataset with its number, counted from one. -/
structure Series (α : Type) where
  index : Nat
  entries : List (Entry α)
  deriving Repr

def Series.amounts {α : Type} (s : Series α) : List α :=
  s.entries.map Entry.amount

def Series.texts {α : Type} (s : Series α) : List String :=
  s.entries.map Entry.text

structure Plan (α : Type) where
  kind : Kind
  title : String
  orientation : Orientation
  colors : List String
  labels : List String
  seriesLabels : List String
  scaleLabels : List String
  series : List (Series α)
  deriving Repr

namespace Plan

variable {α : Type}

def dataset? (p : Plan α) (index : Nat) : Option (Series α) :=
  p.series.find? (·.index == index)

/-- The series with a given number, if it has an entry. -/
def filled? (p : Plan α) (index : Nat) : Option (Series α) :=
  (p.dataset? index).filter (!·.entries.isEmpty)

/-- The first series among the five that charts with many series draw. -/
def datasets (p : Plan α) (limit : Nat) : List (Series α) :=
  (p.series.filter (·.index ≤ 5)).take limit

/-- The name of a series, or another text where none is given. -/
def seriesLabel (p : Plan α) (i : Nat) (fallback : String) : String :=
  p.seriesLabels[i]?.getD fallback

/-- The name of a series, which is its number where none is given. -/
def seriesName (p : Plan α) (i : Nat) : String :=
  p.seriesLabel i ("Series " ++ toString (i + 1))

def color (p : Plan α) (i : Nat) : String :=
  Chart.colorAt p.colors i

end Plan

def Plan.ofSpec (s : Spec) : Plan Float where
  kind := s.kind
  title := s.title
  orientation := s.orientation
  colors := s.colorScheme
  labels := s.labels
  seriesLabels := s.seriesLabels
  scaleLabels := s.scaleLabels
  series := s.series.map fun d => ⟨d.index, d.items.map fun x => ⟨x.amount, x.shown⟩⟩

end Infochart.Layout
