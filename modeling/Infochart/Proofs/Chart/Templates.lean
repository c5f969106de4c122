import Infochart.Chart.Template
import Infochart.Proofs.Chart.Names
import Mathlib.Data.List.Nodup

/-!
# Templates are found by kind

A template is looked up by its own name first, whatever blanks are around it and in whatever letter case, and
only then by the kind that the text resolves to. The first way is no exception to the second: what it leaves
aside does not show in the key of a text, so a text that is found by name resolves like the name
(`resolve_of_name`), and each name resolves to the kind of its template. There is one template of each kind,
hence **a text finds the template of the kind that it resolves to**, and none if it resolves to none.
-/

namespace Infochart.Chart

namespace Template

variable {name : String} {k : Kind} {t u : Template}

/-! ## The templates -/

theorem resolve_templateName : ∀ t ∈ all, Kind.resolve t.name = some t.kind := by
  decide +kernel

theorem exists_of_kind (k : Kind) : ∃ t ∈ all, t.kind = k := by
  cases k <;> decide

theorem eq_of_kind (ht : t ∈ all) (hu : u ∈ all) (h : t.kind = u.kind) : t = u := by
  have hnodup : (all.map Template.kind).Nodup := by decide
  exact List.inj_on_of_nodup_map hnodup ht hu h

/-! ## Finding one -/

/-- **A text that is found by name resolves like the name.** -/
theorem resolve_of_name (ht : t ∈ all) (h : t.name = Text.asciiLower (Text.trimmed name)) :
    Kind.resolve name = some t.kind := by
  have hsame : SameNames (Text.asciiLower (Text.trimmed name)) name :=
    SameNames.of_key (Text.key_asciiLower_trimmed name)
  rw [← hsame.kind, ← h]
  exact resolve_templateName t ht

/-- Whichever way a template is found, the text resolves to its kind. -/
theorem find?_sound (h : find? name = some t) : t ∈ all ∧ Kind.resolve name = some t.kind := by
  unfold find? at h
  simp only at h
  split at h
  · rename_i u hfind
    cases h
    have hmem := List.mem_of_find?_eq_some hfind
    have hname := List.find?_some hfind
    exact ⟨hmem, resolve_of_name hmem (by simpa using hname)⟩
  · obtain ⟨k, hkind, hfind⟩ := Option.bind_eq_some_iff.1 h
    have hk : t.kind = k := by simpa using List.find?_some hfind
    exact ⟨List.mem_of_find?_eq_some hfind, by rw [hkind, hk]⟩

/-- A text that resolves to a kind finds a template. -/
theorem exists_of_resolve (h : Kind.resolve name = some k) : ∃ t, find? name = some t := by
  unfold find?
  simp only
  split
  · exact ⟨_, rfl⟩
  · obtain ⟨t, ht, hk⟩ := exists_of_kind k
    rw [h, Option.bind_some, ← Option.isSome_iff_exists, List.find?_isSome]
    exact ⟨t, ht, by simpa using hk⟩

theorem find?_eq_some_iff : find? name = some t ↔ t ∈ all ∧ Kind.resolve name = some t.kind := by
  constructor
  · exact find?_sound
  · rintro ⟨ht, hresolve⟩
    obtain ⟨u, hu⟩ := exists_of_resolve hresolve
    obtain ⟨hmem, hkind⟩ := find?_sound hu
    have hkinds : t.kind = u.kind := Option.some.inj (hresolve.symm.trans hkind)
    rw [hu, eq_of_kind ht hmem hkinds]

end Template

/-- **A text finds a template exactly if it resolves to a kind**, and it finds the one template of this
    kind. -/
theorem template_found_iff_resolved (name : String) :
    (Template.find? name).map Template.kind = Kind.resolve name ∧
      ∀ t, Template.find? name = some t ↔ t ∈ Template.all ∧ Kind.resolve name = some t.kind := by
  refine ⟨?_, fun t => Template.find?_eq_some_iff⟩
  cases hresolve : Kind.resolve name with
  | none =>
    refine Option.map_eq_none_iff.2 (Option.eq_none_iff_forall_ne_some.2 fun t ht => ?_)
    have hkind := (Template.find?_sound ht).2
    rw [hresolve] at hkind
    cases hkind
  | some k =>
    obtain ⟨t, ht⟩ := Template.exists_of_resolve hresolve
    rw [ht, Option.map_some, ← (Template.find?_sound ht).2, hresolve]

/-- A name in capitals is found as it stands, and a column chart by its kind. -/
example : (Template.find? " BAR\n").map Template.name = some "bar" ∧
    (Template.find? "Column  Chart").map Template.name = some "bar" := by
  decide +kernel

end Infochart.Chart
