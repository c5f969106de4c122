import Infochart.Chart.Advice
import Infochart.Proofs.Text.Search

/-!
# When the advice fits the kind of chart

A text names a kind of chart by its aliases and markers, and is advised a relationship by its hints. Both
look for words in the same key, but in orders of their own: the advice is the first relationship, in the
order of the hints, that some word of the text hints at (`relationshipFor_spec`). So what a text of a
known kind is advised is settled by the hints at relationships in front of that of its kind. A text that
names a timeline always has such a hint, as the word itself ends in one.
-/

namespace Infochart.Chart

/-- The relationship that a kind of chart shows. -/
def Kind.relationship : Kind → Relationship
  | .pie => .composition
  | .bar | .radar | .comparison => .comparison
  | .line => .trend
  | .process | .timeline => .sequential

/-- The relationships in the order in which hints at them are looked for. -/
def Relationship.inOrder : List Relationship :=
  [.composition, .comparison, .trend, .correlation, .sequential, .geographic]

/-- The relationships whose hints decide before those at a given one. -/
def Relationship.before (r : Relationship) : List Relationship :=
  inOrder.takeWhile (· ≠ r)

/-- Whether a word occurs in the key of a text. -/
def Says (t word : String) : Prop :=
  word.toList <:+: Text.key t.toList

instance (t word : String) : Decidable (Says t word) :=
  decidable_of_iff _ Text.contains_iff

/-- Whether a text says a word that hints at a relationship. -/
def HintsAt (t : String) (r : Relationship) : Prop :=
  ∃ hint ∈ hints, hint.2 = r ∧ Says t hint.1

instance (t : String) (r : Relationship) : Decidable (HintsAt t r) :=
  inferInstanceAs (Decidable (∃ hint ∈ hints, hint.2 = r ∧ Says t hint.1))

/-- Whether a text hints at a relationship, and at none that is looked for before it. -/
structure HintsFirstAt (t : String) (r : Relationship) : Prop where
  hint : HintsAt t r
  first : ∀ r' ∈ r.before, ¬ HintsAt t r'

variable {t : String} {kind : Kind} {r : Relationship}

/-! ## The advice -/

/-- The hints stand in the order of their relationships. -/
theorem pairwise_hints : hints.Pairwise fun e e' => e'.2 ∉ e.2.before := by
  decide

theorem not_mem_before_self (r : Relationship) : r ∉ r.before := by
  cases r <;> decide

theorem before_trichotomy (r r' : Relationship) : r = r' ∨ r ∈ r'.before ∨ r' ∈ r.before := by
  cases r <;> cases r' <;> decide

theorem HintsFirstAt.unique {r' : Relationship} (h : HintsFirstAt t r) (h' : HintsFirstAt t r') :
    r = r' := by
  rcases before_trichotomy r r' with heq | hbefore | hbefore
  · exact heq
  · exact absurd h.hint (h'.first r hbefore)
  · exact absurd h'.hint (h.first r' hbefore)

/-- **The advice is the relationship that is hinted at first**, and comparison without any hint. -/
theorem relationshipFor_spec (t : String) :
    HintsFirstAt t (relationshipFor t) ∨
      relationshipFor t = .comparison ∧ ∀ r, ¬ HintsAt t r := by
  unfold relationshipFor
  simp only
  cases hfind : List.find? _ hints with
  | none =>
    refine .inr ⟨rfl, ?_⟩
    rintro r ⟨hint, hmem, -, hsaid⟩
    exact List.find?_eq_none.1 hfind hint hmem (Text.contains_iff.2 hsaid)
  | some e =>
    obtain ⟨hsaid, passed, rest, hhints, hpassed⟩ := List.find?_eq_some_iff_append.1 hfind
    have horder := pairwise_hints
    rw [hhints, List.pairwise_append, List.pairwise_cons] at horder
    refine .inl ⟨⟨e, List.mem_of_find?_eq_some hfind, rfl, Text.contains_iff.1 hsaid⟩, ?_⟩
    rintro _ hbefore ⟨hint, hmem, rfl, hsaid'⟩
    -- A hint at an earlier relationship stands in front of the one that was found.
    rw [hhints, List.mem_append, List.mem_cons] at hmem
    rcases hmem with hmem | rfl | hmem
    · simpa [Text.contains_iff.2 hsaid'] using hpassed hint hmem
    · exact not_mem_before_self _ hbefore
    · exact horder.2.1.1 hint hmem hbefore

theorem relationshipFor_iff : relationshipFor t = r ↔
    (∀ r' ∈ r.before, ¬ HintsAt t r') ∧
      (HintsAt t r ∨ r = .comparison ∧ ∀ r', ¬ HintsAt t r') := by
  constructor
  · rintro rfl
    rcases relationshipFor_spec t with hspec | ⟨heq, hnone⟩
    · exact ⟨hspec.first, .inl hspec.hint⟩
    · exact ⟨fun r _ => hnone r, .inr ⟨heq, hnone⟩⟩
  · rintro ⟨hfirst, hhint | ⟨rfl, hnone⟩⟩
    · rcases relationshipFor_spec t with hspec | ⟨-, hnone⟩
      · exact hspec.unique ⟨hhint, hfirst⟩
      · exact absurd hhint (hnone r)
    · rcases relationshipFor_spec t with hspec | ⟨heq, -⟩
      · exact absurd hspec.hint (hnone _)
      · exact heq

/-! ## The kind -/

/-- The relationships that every name of a kind of chart hints at. -/
def Kind.hinted : Kind → List Relationship
  | .pie => [.composition]
  | .bar => [.comparison]
  | .line => [.trend]
  | .process => [.sequential]
  | .timeline => [.trend, .sequential]
  | .radar | .comparison => []

theorem hints_of_name : ∀ e ∈ Kind.aliases ++ Kind.markers, ∀ r ∈ e.2.hinted,
    ∃ hint ∈ hints, hint.2 = r ∧ hint.1.toList <:+: e.1.toList := by
  decide +kernel

/-- A text of a known kind says one of the names of that kind. -/
theorem exists_name_of_resolve (h : Kind.resolve t = some kind) :
    ∃ name, (name, kind) ∈ Kind.aliases ++ Kind.markers ∧ Says t name := by
  unfold Kind.resolve Kind.ofKey? at h
  split at h
  · rename_i name found hfind
    cases h
    have hname : name.toList = Text.key t.toList := by
      simpa using List.find?_some hfind
    refine ⟨name, List.mem_append_left _ (List.mem_of_find?_eq_some hfind), ?_⟩
    unfold Says
    rw [hname]
  · obtain ⟨e, hfind, rfl⟩ := Option.map_eq_some_iff.1 h
    have hsaid : Text.contains e.1.toList (Text.key t.toList) = true := by
      simpa using List.find?_some hfind
    exact ⟨e.1, List.mem_append_right _ (List.mem_of_find?_eq_some hfind),
      Text.contains_iff.1 hsaid⟩

theorem hintsAt_of_resolve (h : Kind.resolve t = some kind) (hr : r ∈ kind.hinted) :
    HintsAt t r := by
  obtain ⟨name, hname, hsaid⟩ := exists_name_of_resolve h
  obtain ⟨hint, hmem, heq, hin⟩ := hints_of_name _ hname r hr
  exact ⟨hint, hmem, heq, hin.trans hsaid⟩

/-- The names of a kind hint at its relationship, or they hint at nothing and it is comparison. -/
theorem relationship_mem_hinted (kind : Kind) :
    kind.relationship ∈ kind.hinted ∨ kind.hinted = [] ∧ kind.relationship = .comparison := by
  cases kind <;> decide

/-- **When the advice fits.** The relationship that is advised on a text of a known kind is that of the
    kind if and only if the text hints at none that is looked for before it; where the names of the kind
    hint at nothing, which are those of radar charts and comparisons, it must not hint at a later one
    either, unless it hints at comparison. So the advice on pie charts always fits, and that on timelines
    never does: their name hints at a trend. -/
theorem relationshipFor_fits_iff (h : Kind.resolve t = some kind) :
    (relationshipFor t = kind.relationship ↔
      (∀ r ∈ kind.relationship.before, ¬ HintsAt t r) ∧
        (kind.hinted = [] → HintsAt t .comparison ∨ ∀ r, ¬ HintsAt t r)) ∧
      (kind = .pie → relationshipFor t = .composition) ∧
        (kind = .timeline → relationshipFor t ≠ .sequential) := by
  refine ⟨?_, ?_, ?_⟩
  · rw [relationshipFor_iff]
    refine and_congr_right fun _ => ?_
    rcases relationship_mem_hinted kind with hhinted | ⟨hnil, heq⟩
    · have hhint := hintsAt_of_resolve h hhinted
      exact iff_of_true (.inl hhint) fun hnil => absurd hhinted (by rw [hnil]; exact List.not_mem_nil)
    · simp [hnil, heq]
  · rintro rfl
    exact relationshipFor_iff.2
      ⟨fun r hr => absurd hr (by cases r <;> decide), .inl (hintsAt_of_resolve h (by decide))⟩
  · rintro rfl hfits
    exact (relationshipFor_iff.1 hfits).1 .trend (by decide) (hintsAt_of_resolve h (by decide))

/-- A flow of bars on a map: the kind decides, as words for flows and maps come after those for bars. -/
theorem relationshipFor_fits_of_flow :
    Kind.resolve "Flow Bar  CHART Map" = some .bar ∧
      relationshipFor "Flow Bar  CHART Map" = Kind.bar.relationship := by
  have hkind : Kind.resolve "Flow Bar  CHART Map" = some .bar := by decide +kernel
  refine ⟨hkind, (relationshipFor_fits_iff hkind).1.2 ⟨by decide +kernel, fun hnil => ?_⟩⟩
  cases hnil

/-- A timeline is advised as a trend. -/
theorem not_relationshipFor_fits : ¬ ∀ (t : String) (kind : Kind),
    Kind.resolve t = some kind → relationshipFor t = kind.relationship := by
  intro h
  exact absurd (h "Timeline" .timeline (by decide +kernel)) (by decide +kernel)

end Infochart.Chart
