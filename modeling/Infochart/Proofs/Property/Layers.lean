import Infochart.Property.Layers
import Mathlib.Algebra.BigOperators.Group.List.Basic
import Mathlib.Algebra.GroupWithZero.Nat
import Mathlib.Data.List.Induction
import Mathlib.Data.List.Nodup
import Mathlib.Data.List.Sort

/-!
# Layers hold the entries of a map

Sorting a map into layers loses nothing, doubles nothing and moves nothing into a foreign layer. One
insertion changes the layer of its identifier and leaves the others alone (`Layers.entries_insert`); there
it adds its entry (`perm_insertById`) at its place in ascending order (`ascends_insertById`). So after all
insertions **a layer is the entries that belong to it, in ascending order of their identifiers**
(`perm_entries_layersOf`, `ascends_layersOf`). Only one list is both, so the order of the map itself is
forgotten.
-/

namespace Infochart.Property

/-- Whether an entry has a smaller identifier than another one. -/
def Precedes (e f : Id × Value) : Prop :=
  e.1.toNat < f.1.toNat

instance : Std.Irrefl Precedes :=
  ⟨fun _ => Nat.lt_irrefl _⟩

instance : Std.Antisymm Precedes :=
  ⟨fun _ _ h h' => absurd h' (Nat.lt_asymm h)⟩

/-- Whether entries stand in strictly ascending order of their identifiers. -/
def Ascends (es : List (Id × Value)) : Prop :=
  es.Pairwise Precedes

/-- All layers, in the order in which they are written. -/
def Layer.all : List Layer :=
  namedLayers ++ [.other]

/-- Whether layers hold exactly the entries of a map, each in the layer of its identifier. -/
structure Layers.Partition (ls : Layers) (m : Map) : Prop where
  mem_iff : ∀ layer id v, (id, v) ∈ ls.entries layer ↔ (id, v) ∈ m.entries ∧ id.layer = layer
  size : (Layer.all.map fun layer => (ls.entries layer).length).sum = m.size
  ascends : ∀ layer, Ascends (ls.entries layer)

variable {id : Id} {v : Value} {es : List (Id × Value)} {e : Id × Value}

theorem Id.toNat_injective : Function.Injective Id.toNat := by
  rintro ⟨i⟩ ⟨j⟩ h
  exact congrArg Id.mk (Fin.ext h)

/-! ## One insertion -/

/-- A change to one layer is seen there, and nowhere else. -/
theorem Layers.entries_modify (ls : Layers) (f : List (Id × Value) → List (Id × Value))
    (changed layer : Layer) : (ls.modify f changed).entries layer =
      if layer = changed then f (ls.entries layer) else ls.entries layer := by
  cases changed <;> cases layer <;> rfl

theorem Layers.entries_insert (ls : Layers) (layer : Layer) : (ls.insert id v).entries layer =
    if layer = id.layer then insertById id v (ls.entries layer) else ls.entries layer :=
  ls.entries_modify (insertById id v) id.layer layer

/-- Layers are known by the entries of each. -/
theorem Layers.ext_entries {ls ls' : Layers} (h : ∀ layer, ls.entries layer = ls'.entries layer) :
    ls = ls' := by
  rw [Layers.mk.injEq]
  exact ⟨h .subject, h .data, h .design, h .content, h .technical, h .dataLabels, h .dataValues,
    h .other⟩

/-- A new identifier adds one entry. -/
theorem perm_insertById (h : id ∉ es.map Prod.fst) : (insertById id v es).Perm ((id, v) :: es) := by
  induction es with
  | nil => exact .refl _
  | cons e r ih =>
    obtain ⟨k, w⟩ := e
    simp only [List.map_cons, List.mem_cons, not_or] at h
    unfold insertById
    split
    · exact .refl _
    · split
      · exact ((ih h.2).cons _).trans (.swap ..)
      · -- Neither is smaller, so the identifier would be there already.
        exact absurd (Id.toNat_injective (by omega)) h.1

theorem mem_of_mem_insertById (h : e ∈ insertById id v es) : e = (id, v) ∨ e ∈ es := by
  induction es with
  | nil => exact .inl (List.mem_singleton.1 h)
  | cons f r ih =>
    obtain ⟨k, w⟩ := f
    unfold insertById at h
    split at h
    · exact List.mem_cons.1 h
    · split at h
      · rcases List.mem_cons.1 h with h | h
        · exact .inr (h ▸ List.mem_cons_self)
        · exact (ih h).imp_right (List.mem_cons_of_mem _)
      · exact (List.mem_cons.1 h).imp_right (List.mem_cons_of_mem _)

/-- An insertion keeps the order, be the identifier new or not. -/
theorem ascends_insertById (h : Ascends es) : Ascends (insertById id v es) := by
  induction es with
  | nil => exact List.pairwise_singleton ..
  | cons e r ih =>
    obtain ⟨k, w⟩ := e
    obtain ⟨hfirst, hrest⟩ := List.pairwise_cons.1 h
    unfold insertById
    split
    · rename_i hlt
      refine List.pairwise_cons.2 ⟨fun f hf => ?_, h⟩
      rcases List.mem_cons.1 hf with rfl | hf
      · exact hlt
      · exact Nat.lt_trans hlt (hfirst f hf)
    · split
      · rename_i hlt
        refine List.pairwise_cons.2 ⟨fun f hf => ?_, ih hrest⟩
        rcases mem_of_mem_insertById hf with rfl | hf
        · exact hlt
        · exact hfirst f hf
      · rename_i hge hle
        obtain rfl : id = k := Id.toNat_injective (by omega)
        exact List.pairwise_cons.2 ⟨hfirst, hrest⟩

/-! ## All insertions -/

/-- The layers of entries that are inserted one after the other. -/
def layersOf (es : List (Id × Value)) : Layers :=
  es.foldl (fun ls e => ls.insert e.1 e.2) {}

theorem entries_layersOf_nil (layer : Layer) : (layersOf []).entries layer = [] := by
  cases layer <;> rfl

theorem layersOf_concat : layersOf (es ++ [e]) = (layersOf es).insert e.1 e.2 :=
  List.foldl_append

/-- The entries that belong to a layer. -/
def belonging (layer : Layer) (es : List (Id × Value)) : List (Id × Value) :=
  es.filter fun e => e.1.layer = layer

theorem mem_belonging {layer : Layer} : e ∈ belonging layer es ↔ e ∈ es ∧ e.1.layer = layer := by
  simp [belonging]

theorem belonging_concat {layer : Layer} : belonging layer (es ++ [e]) =
    belonging layer es ++ if e.1.layer = layer then [e] else [] := by
  unfold belonging
  rw [List.filter_append, List.filter_singleton]
  simp

/-- **After all insertions each layer has the entries that belong to it.** -/
theorem perm_entries_layersOf (hn : (es.map Prod.fst).Nodup) (layer : Layer) :
    ((layersOf es).entries layer).Perm (belonging layer es) := by
  induction es using List.reverseRecOn with
  | nil =>
    rw [entries_layersOf_nil]
    exact .refl _
  | append_singleton es e ih =>
    rw [List.map_append, List.map_singleton] at hn
    have hperm := ih hn.of_append_left
    have hnew : e.1 ∉ ((layersOf es).entries layer).map Prod.fst := by
      intro hmem
      obtain ⟨f, hf, heq⟩ := List.mem_map.1 hmem
      have hkey : e.1 ∈ es.map Prod.fst :=
        List.mem_map.2 ⟨f, (mem_belonging.1 (hperm.mem_iff.1 hf)).1, heq⟩
      exact List.disjoint_of_nodup_append hn hkey (List.mem_singleton_self _)
    rw [layersOf_concat, Layers.entries_insert, belonging_concat]
    by_cases hlayer : layer = e.1.layer
    · rw [if_pos hlayer, if_pos hlayer.symm]
      exact (perm_insertById hnew).trans ((hperm.cons e).trans (List.perm_append_singleton ..).symm)
    · rw [if_neg hlayer, if_neg (Ne.symm hlayer), List.append_nil]
      exact hperm

theorem ascends_layersOf (es : List (Id × Value)) (layer : Layer) :
    Ascends ((layersOf es).entries layer) := by
  induction es using List.reverseRecOn with
  | nil =>
    rw [entries_layersOf_nil]
    exact List.Pairwise.nil
  | append_singleton es e ih =>
    rw [layersOf_concat, Layers.entries_insert]
    split
    · exact ascends_insertById ih
    · exact ih

/-! ## The partition -/

section Partition

variable (m : Map) (layer : Layer)

theorem Map.layers_eq : m.layers = layersOf m.entries := rfl

theorem Map.perm_layers : (m.layers.entries layer).Perm (belonging layer m.entries) := by
  rw [m.layers_eq]
  exact perm_entries_layersOf m.nodup layer

theorem Map.ascends_layers : Ascends (m.layers.entries layer) := by
  rw [m.layers_eq]
  exact ascends_layersOf m.entries layer

theorem Map.mem_layers_iff : e ∈ m.layers.entries layer ↔ e ∈ m.entries ∧ e.1.layer = layer := by
  rw [(m.perm_layers layer).mem_iff, mem_belonging]

end Partition

/-- Each entry belongs to one layer. -/
theorem sum_length_belonging (es : List (Id × Value)) :
    (Layer.all.map fun layer => (belonging layer es).length).sum = es.length := by
  induction es with
  | nil => rfl
  | cons e r ih =>
    have hone : (Layer.all.map fun layer => if e.1.layer = layer then 1 else 0).sum = 1 := by
      cases e.1.layer <;> rfl
    have hstep : ∀ layer, (belonging layer (e :: r)).length =
        (if e.1.layer = layer then 1 else 0) + (belonging layer r).length := by
      intro layer
      unfold belonging
      by_cases h : e.1.layer = layer
      · simp [h, Nat.add_comm]
      · simp [h]
    simp only [hstep, List.sum_map_add]
    rw [hone, ih, List.length_cons, Nat.add_comm]

/-- **The layers of a map are a partition of its entries.** Each entry is in the layer of its identifier,
    with its value, and nothing else is in any layer; within a layer the identifiers ascend; and a map
    with the same entries in any other order has the same layers. -/
theorem layers_partition (m : Map) : m.layers.Partition m ∧
    ∀ n : Map, (∀ e, e ∈ n.entries ↔ e ∈ m.entries) → n.layers = m.layers := by
  constructor
  · constructor
    · intro layer id v
      exact m.mem_layers_iff layer
    · have hlength : ∀ layer, (m.layers.entries layer).length = (belonging layer m.entries).length :=
        fun layer => (m.perm_layers layer).length_eq
      simp only [hlength]
      exact sum_length_belonging m.entries
    · exact m.ascends_layers
  · intro n h
    apply Layers.ext_entries
    intro layer
    apply (n.ascends_layers layer).eq_of_mem_iff (m.ascends_layers layer)
    intro e
    rw [n.mem_layers_iff, m.mem_layers_iff, h]

/-- A purpose that comes behind the type of the chart or before it. -/
theorem layers_partition_of_purpose :
    let type := (Known.visualizationType.id, Value.text "Bar Chart")
    let purpose := (Known.purpose.id, Value.text "Report")
    let m := (Map.empty.insert type.1 type.2).insert purpose.1 purpose.2
    let n := (Map.empty.insert purpose.1 purpose.2).insert type.1 type.2
    (∀ e, e ∈ n.entries ↔ e ∈ m.entries) ∧ n.layers = m.layers := by
  intro type purpose m n
  have h : ∀ e, e ∈ n.entries ↔ e ∈ m.entries := fun e =>
    (List.Perm.swap type purpose []).mem_iff
  exact ⟨h, (layers_partition m).2 n h⟩

end Infochart.Property
