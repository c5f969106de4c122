/-!
# Property identifiers

A property is named by three digits. The hundreds digit says which layer of a description it belongs
to, and some identifiers have a meaning that the charts know.
-/

namespace Infochart.Property

structure Id where
  code : Fin 1000
  deriving DecidableEq, Repr

/-- The identifier of a number below one thousand. -/
def Id.ofNat? (n : Nat) : Option Id :=
  if h : n < 1000 then some ⟨⟨n, h⟩⟩ else none

def Id.toNat (id : Id) : Nat :=
  id.code.val

def digitChar (n : Nat) : Char :=
  Char.ofNat (48 + n)

def Id.digits (id : Id) : List Char :=
  [digitChar (id.toNat / 100), digitChar (id.toNat / 10 % 10), digitChar (id.toNat % 10)]

def Id.text (id : Id) : String :=
  String.ofList id.digits

/-- The identifier that a text names: three ASCII digits and nothing else. -/
def Id.ofDigits? : List Char → Option Id
  | [a, b, c] =>
    if a.isDigit && b.isDigit && c.isDigit then
      Id.ofNat? (100 * (a.toNat - 48) + 10 * (b.toNat - 48) + (c.toNat - 48))
    else none
  | _ => none

inductive Layer where
  | subject
  | data
  | design
  | content
  | technical
  | dataLabels
  | dataValues
  | other
  deriving DecidableEq, Repr

def Layer.name : Layer → String
  | .subject => "meta"
  | .data => "data"
  | .design => "design"
  | .content => "content"
  | .technical => "technical"
  | .dataLabels => "data_labels"
  | .dataValues => "data_values"
  | .other => "other"

/-- The layer of an identifier, by its hundreds digit. -/
def Id.layer (id : Id) : Layer :=
  match id.toNat / 100 with
  | 1 => .subject
  | 2 => .data
  | 3 => .design
  | 4 => .content
  | 5 => .technical
  | 6 => .dataLabels
  | 7 => .dataValues
  | _ => .other

/-- The properties that the charts and the advice know. Datasets are counted from one. -/
inductive Known where
  | visualizationType
  | purpose
  | audience
  | dataType
  | dataRelationship
  | layout
  | colorScheme
  | title
  | subtitle
  | labelStyle
  | outputFormat
  | labels
  | unit
  | seriesLabels
  | scaleLabels
  | dataset (n : Nat)
  deriving DecidableEq, Repr

/-- The number of datasets that a description can hold. -/
def maxDatasets : Nat := 6

/-- The number of a known property; datasets out of range count as the first or the last. -/
def Known.number : Known → Nat
  | .visualizationType => 101
  | .purpose => 102
  | .audience => 103
  | .dataType => 201
  | .dataRelationship => 202
  | .layout => 301
  | .colorScheme => 302
  | .title => 401
  | .subtitle => 402
  | .labelStyle => 403
  | .outputFormat => 501
  | .labels => 601
  | .unit => 602
  | .seriesLabels => 603
  | .scaleLabels => 606
  | .dataset n => 700 + min (max n 1) maxDatasets

theorem Known.number_lt (k : Known) : k.number < 1000 := by
  cases k with
  | dataset n =>
    simp only [number, maxDatasets]
    omega
  | _ => simp [number]

def Known.id (k : Known) : Id :=
  ⟨⟨k.number, k.number_lt⟩⟩

/-- The known property of an identifier, if it has one. -/
def Id.known? (id : Id) : Option Known :=
  match id.toNat with
  | 101 => some .visualizationType
  | 102 => some .purpose
  | 103 => some .audience
  | 201 => some .dataType
  | 202 => some .dataRelationship
  | 301 => some .layout
  | 302 => some .colorScheme
  | 401 => some .title
  | 402 => some .subtitle
  | 403 => some .labelStyle
  | 501 => some .outputFormat
  | 601 => some .labels
  | 602 => some .unit
  | 603 => some .seriesLabels
  | 606 => some .scaleLabels
  | n => if 701 ≤ n ∧ n ≤ 706 then some (.dataset (n - 700)) else none

end Infochart.Property
