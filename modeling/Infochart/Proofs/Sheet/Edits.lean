import Infochart.Sheet.Grid
import Mathlib.Data.List.Induction
import Mathlib.Order.MinMax

/-!
# Edits of sheets

Writing into a sheet makes it grow, row by row and column by column, and rows may be of any length before.
Whatever is added is empty or has its letters as its header, so a cell reads the same as before it was
there (`cell_addRow`, `cell_addColumn`), and so does a header (`header_addColumn`). Each edit then changes
the one cell or header that it names (`cell_edit`, `header_edit`), and what a run of edits leaves in a
place is what was last written there.

A sheet is looked at through `cell` and `header`, which give an answer for every place. So nothing has to be
said about places that are not there yet, and adding them is no change; the numbers of rows and columns,
which do change, have laws of their own.
-/

namespace Infochart.Sheet

/-- The header that a column gets when it is added. -/
def defaultHeader (column : Nat) : String :=
  String.ofList (columnName column)

/-! ## Cells filled up -/

@[simp] theorem length_fill (width : Nat) (cells : List String) :
    (fill width cells).length = max cells.length width := by
  unfold fill
  rw [List.length_append, List.length_replicate]
  omega

/-- Empty cells read like missing ones. All laws on cells go back to this. -/
@[simp] theorem getD_fill (width : Nat) (cells : List String) (c : Nat) :
    (fill width cells)[c]?.getD "" = cells[c]?.getD "" := by
  unfold fill
  rw [List.getElem?_append]
  split
  case isTrue => rfl
  case isFalse hout =>
    rw [List.getElem?_eq_none (not_lt.1 hout), List.getElem?_replicate]
    split <;> rfl

namespace Grid

variable (g : Grid)

/-- The header of a column, its letters if it has none yet. -/
def header (column : Nat) : String :=
  g.headers[column]?.getD (defaultHeader column)

/-- Whether all rows have a cell for each header and no other. -/
def IsRectangular : Prop :=
  ∀ cells ∈ g.rows, cells.length = g.headers.length

instance : Decidable g.IsRectangular :=
  inferInstanceAs (Decidable (∀ cells ∈ g.rows, cells.length = g.headers.length))

/-- The number of columns is the least width that headers and rows fit into. -/
theorem columnCount_le_iff {n : Nat} :
    g.columnCount ≤ n ↔ g.headers.length ≤ n ∧ ∀ cells ∈ g.rows, cells.length ≤ n := by
  obtain ⟨headers, rows⟩ := g
  show rows.foldl (fun n cells => max n cells.length) headers.length ≤ n ↔ headers.length ≤ n ∧ _
  generalize headers.length = m
  induction rows generalizing m with
  | nil => simp
  | cons cells r ih => rw [List.foldl_cons, ih, max_le_iff, List.forall_mem_cons, and_assoc]

theorem length_headers_le : g.headers.length ≤ g.columnCount :=
  (g.columnCount_le_iff.1 le_rfl).1

variable {g} in
theorem IsRectangular.columnCount (h : g.IsRectangular) : g.columnCount = g.headers.length :=
  le_antisymm (g.columnCount_le_iff.2 ⟨le_rfl, fun cells hc => (h cells hc).le⟩) g.length_headers_le

/-! ## A row or a column more -/

@[simp] theorem headers_addRow : g.addRow.headers = g.headers :=
  rfl

@[simp] theorem rowCount_addRow : g.addRow.rowCount = g.rowCount + 1 :=
  List.length_append

@[simp] theorem cell_addRow (r c : Nat) : g.addRow.cell r c = g.cell r c := by
  unfold addRow cell
  rw [List.getElem?_append]
  split
  case isTrue => rfl
  case isFalse hout =>
    rw [List.getElem?_eq_none (not_lt.1 hout), Option.bind_none, Option.getD_none]
    cases hrow : [List.replicate g.columnCount ""][r - g.rows.length]? with
    | none => rfl
    | some cells =>
      obtain rfl := List.mem_singleton.1 (List.mem_of_getElem? hrow)
      rw [Option.bind_some, List.getElem?_replicate]
      split <;> rfl

@[simp] theorem columnCount_addRow : g.addRow.columnCount = g.columnCount := by
  refine eq_of_forall_ge_iff fun n => ?_
  have hrows : (∀ cells ∈ g.addRow.rows, cells.length ≤ n) ↔
      (∀ cells ∈ g.rows, cells.length ≤ n) ∧ g.columnCount ≤ n := by
    unfold addRow
    rw [List.forall_mem_append, List.forall_mem_singleton, List.length_replicate]
  rw [columnCount_le_iff, headers_addRow, hrows, ← and_assoc, ← columnCount_le_iff, and_self]

variable {g} in
theorem IsRectangular.addRow (h : g.IsRectangular) : g.addRow.IsRectangular := by
  unfold IsRectangular Grid.addRow
  rw [List.forall_mem_append, List.forall_mem_singleton, List.length_replicate]
  exact ⟨h, h.columnCount⟩

@[simp] theorem length_headers_addColumn : g.addColumn.headers.length = g.headers.length + 1 :=
  List.length_append

@[simp] theorem rowCount_addColumn : g.addColumn.rowCount = g.rowCount :=
  List.length_map _

@[simp] theorem cell_addColumn (r c : Nat) : g.addColumn.cell r c = g.cell r c := by
  unfold addColumn cell
  rw [List.getElem?_map]
  cases g.rows[r]? with
  | none => rfl
  | some cells => exact getD_fill _ cells c

/-- The new header is the one that the column would read as without it. -/
@[simp] theorem header_addColumn (i : Nat) : g.addColumn.header i = g.header i := by
  unfold addColumn header
  rw [List.getElem?_append]
  split
  case isTrue => rfl
  case isFalse hout =>
    rw [List.getElem?_eq_none (not_lt.1 hout), Option.getD_none]
    cases hname : [String.ofList (columnName g.headers.length)][i - g.headers.length]? with
    | none => rfl
    | some name =>
      -- Of what is behind the headers only the first place has a name.
      have hi : i - g.headers.length < 1 := (List.getElem?_eq_some_iff.1 hname).1
      obtain rfl : i = g.headers.length := by omega
      rw [List.mem_singleton.1 (List.mem_of_getElem? hname)]
      rfl

@[simp] theorem columnCount_addColumn :
    g.addColumn.columnCount = max g.columnCount (g.headers.length + 1) := by
  refine eq_of_forall_ge_iff fun n => ?_
  rw [max_le_iff, columnCount_le_iff, columnCount_le_iff, length_headers_addColumn]
  unfold addColumn
  simp only [List.forall_mem_map, length_fill, max_le_iff]
  constructor
  · rintro ⟨hn, hrows⟩
    exact ⟨⟨by omega, fun cells hc => (hrows cells hc).1⟩, hn⟩
  · rintro ⟨⟨-, hrows⟩, hn⟩
    exact ⟨hn, fun cells hc => ⟨hrows cells hc, hn⟩⟩

variable {g} in
theorem IsRectangular.addColumn (h : g.IsRectangular) : g.addColumn.IsRectangular := by
  unfold IsRectangular
  rw [length_headers_addColumn]
  refine List.forall_mem_map.2 fun cells hc => ?_
  rw [length_fill, h cells hc, Nat.max_eq_right (Nat.le_succ _)]

/-! ## Growth -/

section Growth

variable {g} {f : Grid → Grid}

/-- What one step keeps, all steps keep. -/
theorem repeat_of_step {P : Grid → Prop} (hstep : ∀ g, P g → P (f g)) (h : P g) (k : Nat) :
    P (Nat.repeat f k g) := by
  induction k with
  | zero => exact h
  | succ k ih => exact hstep _ ih

/-- A view that one step does not change is not changed by all of them. -/
theorem repeat_eq_of_step {β : Type} (view : Grid → β) (hstep : ∀ g, view (f g) = view g) (k : Nat) :
    view (Nat.repeat f k g) = view g :=
  repeat_of_step (P := fun h => view h = view g) (fun h hh => (hstep h).trans hh) rfl k

/-- What one step makes greater by one, all steps make greater by their number. -/
theorem repeat_add_of_step (count : Grid → Nat) (hstep : ∀ g, count (f g) = count g + 1) (k : Nat) :
    count (Nat.repeat f k g) = count g + k := by
  induction k with
  | zero => rfl
  | succ k ih => exact (hstep _).trans (congrArg Nat.succ ih)

end Growth

variable (n : Nat)

@[simp] theorem headers_growRows : (g.growRows n).headers = g.headers :=
  repeat_eq_of_step headers headers_addRow _

@[simp] theorem header_growRows (i : Nat) : (g.growRows n).header i = g.header i := by
  unfold header
  rw [headers_growRows]

@[simp] theorem cell_growRows (r c : Nat) : (g.growRows n).cell r c = g.cell r c :=
  repeat_eq_of_step (fun g => g.cell r c) (fun g => g.cell_addRow r c) _

@[simp] theorem columnCount_growRows : (g.growRows n).columnCount = g.columnCount :=
  repeat_eq_of_step columnCount columnCount_addRow _

@[simp] theorem rowCount_growRows : (g.growRows n).rowCount = max g.rowCount n := by
  have hcount : (g.growRows n).rowCount = g.rowCount + (n - g.rowCount) :=
    repeat_add_of_step rowCount rowCount_addRow _
  omega

@[simp] theorem cell_growColumns (r c : Nat) : (g.growColumns n).cell r c = g.cell r c :=
  repeat_eq_of_step (fun g => g.cell r c) (fun g => g.cell_addColumn r c) _

@[simp] theorem header_growColumns (i : Nat) : (g.growColumns n).header i = g.header i :=
  repeat_eq_of_step (fun g => g.header i) (fun g => g.header_addColumn i) _

@[simp] theorem rowCount_growColumns : (g.growColumns n).rowCount = g.rowCount :=
  repeat_eq_of_step rowCount rowCount_addColumn _

@[simp] theorem length_headers_growColumns :
    (g.growColumns n).headers.length = max g.headers.length n := by
  have hcount : (g.growColumns n).headers.length = g.headers.length + (n - g.headers.length) :=
    repeat_add_of_step (fun g => g.headers.length) length_headers_addColumn _
  omega

@[simp] theorem columnCount_growColumns : (g.growColumns n).columnCount = max g.columnCount n := by
  have hrepeat (k : Nat) :
      (Nat.repeat addColumn k g).columnCount = max g.columnCount (g.headers.length + k) := by
    induction k with
    | zero => exact (max_eq_left g.length_headers_le).symm
    | succ k ih =>
      have hlength : (Nat.repeat addColumn k g).headers.length = g.headers.length + k :=
        repeat_add_of_step (fun g => g.headers.length) length_headers_addColumn k
      show (Nat.repeat addColumn k g).addColumn.columnCount = _
      rw [columnCount_addColumn, ih, hlength]
      omega
  have hle := g.length_headers_le
  unfold growColumns
  rw [hrepeat]
  omega

variable {g} {n}

theorem IsRectangular.growRows (h : g.IsRectangular) : (g.growRows n).IsRectangular :=
  repeat_of_step (P := IsRectangular) (fun _ h => h.addRow) h _

theorem IsRectangular.growColumns (h : g.IsRectangular) : (g.growColumns n).IsRectangular :=
  repeat_of_step (P := IsRectangular) (fun _ h => h.addColumn) h _

/-! ## Writing -/

/-- A list with one entry changed is the list with that entry changed, place by place. Membership alone does
    not tell which entry was changed. -/
theorem forall_mem_modify {β : Type} {l : List β} {i : Nat} {f : β → β} {P : β → Prop} :
    (∀ y ∈ l.modify i f, P y) ↔ ∀ j x, l[j]? = some x → P (if i = j then f x else x) := by
  constructor
  · intro h j x hx
    refine h _ (List.mem_of_getElem? (i := j) ?_)
    rw [List.getElem?_modify, hx]
    rfl
  · intro h y hy
    obtain ⟨j, hj⟩ := List.mem_iff_getElem?.1 hy
    rw [List.getElem?_modify] at hj
    obtain ⟨x, hx, rfl⟩ := Option.map_eq_some_iff.1 hj
    exact h j x hx

/-- A cell written into a row that is there. -/
def put (g : Grid) (row column : Nat) (value : String) : Grid :=
  { g with rows := g.rows.modify row fun cells => (fill (column + 1) cells).set column value }

section Put

variable {r c : Nat} (v : String)

theorem rowCount_put : (g.put r c v).rowCount = g.rowCount :=
  List.length_modify ..

theorem cell_put (hr : r < g.rowCount) (r' c' : Nat) :
    (g.put r c v).cell r' c' = if r = r' ∧ c = c' then v else g.cell r' c' := by
  unfold put cell
  rw [List.getElem?_modify]
  by_cases hrow : r = r'
  · subst hrow
    have hcells : g.rows[r]? = some g.rows[r] := List.getElem?_eq_getElem hr
    have hlength : c < (fill (c + 1) g.rows[r]).length := by
      rw [length_fill]
      omega
    simp only [hcells, Option.map_eq_map, Option.map_some, if_true, Option.bind_some, true_and]
    rw [List.getElem?_set, if_pos hlength]
    split
    case isTrue => rfl
    case isFalse => exact getD_fill _ _ c'
  · simp only [hrow, if_false, false_and, Option.map_eq_map, Option.map_id']

/-- Writing into a row may make it longer, but not longer than the headers, which have grown before. -/
theorem columnCount_put (hc : c < g.headers.length) : (g.put r c v).columnCount = g.columnCount := by
  refine eq_of_forall_ge_iff fun n => ?_
  rw [columnCount_le_iff, columnCount_le_iff]
  refine and_congr_right fun (hn : g.headers.length ≤ n) => ?_
  unfold put
  rw [forall_mem_modify]
  constructor
  · intro h cells hcells
    obtain ⟨j, hj⟩ := List.mem_iff_getElem?.1 hcells
    have hle := h j cells hj
    split at hle
    case isTrue =>
      rw [List.length_set, length_fill] at hle
      exact (le_max_left _ _).trans hle
    case isFalse => exact hle
  · intro h j cells hj
    have hle := h cells (List.mem_of_getElem? hj)
    split
    case isTrue =>
      rw [List.length_set, length_fill]
      exact max_le hle (by omega)
    case isFalse => exact hle

theorem IsRectangular.put (h : g.IsRectangular) (hc : c < g.headers.length) :
    (g.put r c v).IsRectangular := by
  unfold IsRectangular Grid.put
  rw [forall_mem_modify]
  intro j cells hj
  have hcells := h cells (List.mem_of_getElem? hj)
  split
  case isTrue =>
    rw [List.length_set, length_fill, hcells]
    exact max_eq_left hc
  case isFalse => exact hcells

end Put

section Write

variable (g) (r c : Nat) (v : String)

theorem setCell_eq : g.setCell r c v = ((g.growRows (r + 1)).growColumns (c + 1)).put r c v :=
  rfl

@[simp] theorem cell_setCell (r' c' : Nat) :
    (g.setCell r c v).cell r' c' = if r = r' ∧ c = c' then v else g.cell r' c' := by
  rw [setCell_eq, cell_put, cell_growColumns, cell_growRows]
  rw [rowCount_growColumns, rowCount_growRows]
  omega

@[simp] theorem header_setCell (i : Nat) : (g.setCell r c v).header i = g.header i := by
  show ((g.growRows (r + 1)).growColumns (c + 1)).header i = _
  rw [header_growColumns, header_growRows]

@[simp] theorem rowCount_setCell : (g.setCell r c v).rowCount = max g.rowCount (r + 1) := by
  rw [setCell_eq, rowCount_put, rowCount_growColumns, rowCount_growRows]

@[simp] theorem length_headers_setCell :
    (g.setCell r c v).headers.length = max g.headers.length (c + 1) := by
  show ((g.growRows (r + 1)).growColumns (c + 1)).headers.length = _
  rw [length_headers_growColumns, headers_growRows]

@[simp] theorem columnCount_setCell : (g.setCell r c v).columnCount = max g.columnCount (c + 1) := by
  rw [setCell_eq, columnCount_put, columnCount_growColumns, columnCount_growRows]
  rw [length_headers_growColumns]
  omega

@[simp] theorem cell_setHeader (r' c' : Nat) : (g.setHeader c v).cell r' c' = g.cell r' c' :=
  g.cell_growColumns (c + 1) r' c'

@[simp] theorem header_setHeader (i : Nat) :
    (g.setHeader c v).header i = if c = i then v else g.header i := by
  have hlength : c < (g.growColumns (c + 1)).headers.length := by
    rw [length_headers_growColumns]
    omega
  rw [← header_growColumns g (c + 1)]
  unfold setHeader header
  simp only
  rw [List.getElem?_set, if_pos hlength]
  split <;> rfl

@[simp] theorem rowCount_setHeader : (g.setHeader c v).rowCount = g.rowCount :=
  g.rowCount_growColumns (c + 1)

@[simp] theorem length_headers_setHeader :
    (g.setHeader c v).headers.length = max g.headers.length (c + 1) := by
  unfold setHeader
  simp only
  rw [List.length_set, length_headers_growColumns]

variable {g}

theorem IsRectangular.setCell (h : g.IsRectangular) : (g.setCell r c v).IsRectangular := by
  rw [setCell_eq]
  refine h.growRows.growColumns.put v ?_
  rw [length_headers_growColumns]
  omega

theorem IsRectangular.setHeader (h : g.IsRectangular) : (g.setHeader c v).IsRectangular := by
  intro cells hcells
  unfold Grid.setHeader
  simp only
  rw [List.length_set]
  exact h.growColumns cells hcells

end Write

end Grid

/-! ## Edits -/

inductive Edit where
  | setCell (row column : Nat) (value : String)
  | setHeader (column : Nat) (value : String)
  | addRow
  | addColumn
  deriving DecidableEq, Repr

namespace Edit

/-- What the edit writes into a cell, if it does. -/
def cell? (row column : Nat) : Edit → Option String
  | .setCell r c value => if r = row ∧ c = column then some value else none
  | _ => none

/-- What the edit writes into a header, if it does. -/
def header? (column : Nat) : Edit → Option String
  | .setHeader c value => if c = column then some value else none
  | _ => none

/-- What an edit makes of the size of a sheet. -/
def Resizes (g h : Grid) : Edit → Prop
  | .setCell r c _ => h.rowCount = max g.rowCount (r + 1) ∧
      h.headers.length = max g.headers.length (c + 1) ∧ h.columnCount = max g.columnCount (c + 1)
  | .setHeader c _ => h.rowCount = g.rowCount ∧ h.headers.length = max g.headers.length (c + 1)
  | .addRow => h.rowCount = g.rowCount + 1 ∧ h.headers.length = g.headers.length ∧
      h.columnCount = g.columnCount
  | .addColumn => h.rowCount = g.rowCount ∧ h.headers.length = g.headers.length + 1 ∧
      h.columnCount = max g.columnCount (g.headers.length + 1)

/-- What some edits wrote last, if they did at all. -/
def last? (written? : Edit → Option String) (edits : List Edit) : Option String :=
  edits.reverse.findSome? written?

@[simp] theorem last?_concat (written? : Edit → Option String) (edits : List Edit) (e : Edit) :
    last? written? (edits ++ [e]) = (written? e).or (last? written? edits) := by
  unfold last?
  rw [List.reverse_concat, List.findSome?_cons]
  cases written? e <;> rfl

end Edit

namespace Grid

variable (g : Grid)

def edit : Edit → Grid
  | .setCell r c value => g.setCell r c value
  | .setHeader c value => g.setHeader c value
  | .addRow => g.addRow
  | .addColumn => g.addColumn

/-- The sheet after some edits, in order. -/
def edited (edits : List Edit) : Grid :=
  edits.foldl edit g

@[simp] theorem edited_concat (edits : List Edit) (e : Edit) :
    g.edited (edits ++ [e]) = (g.edited edits).edit e := by
  unfold edited
  rw [List.foldl_append, List.foldl_cons, List.foldl_nil]

/-! ## One edit -/

/-- **An edit changes the cell that it writes, and no other.** -/
theorem cell_edit (r c : Nat) (e : Edit) :
    (g.edit e).cell r c = (e.cell? r c).getD (g.cell r c) := by
  cases e with
  | setCell r' c' value =>
    unfold edit Edit.cell?
    simp only [cell_setCell]
    split <;> rfl
  | setHeader c' value => exact g.cell_setHeader c' value r c
  | addRow => exact g.cell_addRow r c
  | addColumn => exact g.cell_addColumn r c

/-- **An edit changes the header that it writes, and no other.** -/
theorem header_edit (i : Nat) (e : Edit) :
    (g.edit e).header i = (e.header? i).getD (g.header i) := by
  cases e with
  | setCell r c value => exact g.header_setCell r c value i
  | setHeader c value =>
    unfold edit Edit.header?
    simp only [header_setHeader]
    split <;> rfl
  | addRow => rfl
  | addColumn => exact g.header_addColumn i

theorem resizes_edit (e : Edit) : e.Resizes g (g.edit e) := by
  cases e with
  | setCell r c value =>
    exact ⟨g.rowCount_setCell r c value, g.length_headers_setCell r c value,
      g.columnCount_setCell r c value⟩
  | setHeader c value => exact ⟨g.rowCount_setHeader c value, g.length_headers_setHeader c value⟩
  | addRow => exact ⟨g.rowCount_addRow, rfl, g.columnCount_addRow⟩
  | addColumn => exact ⟨g.rowCount_addColumn, g.length_headers_addColumn, g.columnCount_addColumn⟩

variable {g}

theorem IsRectangular.edit (h : g.IsRectangular) (e : Edit) : (g.edit e).IsRectangular := by
  cases e with
  | setCell r c value => exact h.setCell r c value
  | setHeader c value => exact h.setHeader c value
  | addRow => exact h.addRow
  | addColumn => exact h.addColumn

/-! ## Runs of edits -/

/-- If each edit leaves what it writes in a place, a run leaves what it wrote there last. -/
theorem view_edited (view : Grid → String) {written? : Edit → Option String}
    (hstep : ∀ g e, view (edit g e) = (written? e).getD (view g)) (g : Grid) (edits : List Edit) :
    view (g.edited edits) = (Edit.last? written? edits).getD (view g) := by
  induction edits using List.reverseRecOn with
  | nil => rfl
  | append_singleton edits e ih =>
    rw [edited_concat, hstep, ih, Edit.last?_concat]
    cases written? e <;> rfl

theorem IsRectangular.edited (h : g.IsRectangular) (edits : List Edit) :
    (g.edited edits).IsRectangular := by
  induction edits using List.reverseRecOn with
  | nil => exact h
  | append_singleton edits e ih =>
    rw [edited_concat]
    exact ih.edit e

theorem length_headers_le_edited (g : Grid) (edits : List Edit) :
    g.headers.length ≤ (g.edited edits).headers.length := by
  induction edits using List.reverseRecOn with
  | nil => exact le_rfl
  | append_singleton edits e ih =>
    rw [edited_concat]
    have hsize := (g.edited edits).resizes_edit e
    cases e <;> simp only [Edit.Resizes] at hsize <;> omega

/-- The headers of a sheet, from those that all columns have. -/
theorem getElem?_headers {i : Nat} (h : i < g.headers.length) : g.headers[i]? = some (g.header i) := by
  unfold header
  rw [List.getElem?_eq_getElem h, Option.getD_some]

/-- **No edit loses anything.** After a run of edits each cell and each header holds what was last written
    there, or else what it held before: nothing in a cell that was not there, and letters in a header that
    was added. Each edit makes the sheet as large as it says, and rows that all match the headers go on
    doing so. -/
theorem edits_lose_nothing (g : Grid) (edits : List Edit) :
    (∀ r c, (g.edited edits).cell r c = (Edit.last? (Edit.cell? r c) edits).getD (g.cell r c)) ∧
    g.headers.length ≤ (g.edited edits).headers.length ∧
    (∀ i < (g.edited edits).headers.length, (g.edited edits).headers[i]? =
      some ((Edit.last? (Edit.header? i) edits).getD (g.headers[i]?.getD (defaultHeader i)))) ∧
    (∀ e : Edit, e.Resizes (g.edited edits) ((g.edited edits).edit e)) ∧
    (g.IsRectangular → (g.edited edits).IsRectangular) := by
  refine ⟨fun r c => ?_, length_headers_le_edited g edits, fun i hi => ?_, fun e => resizes_edit _ e,
    fun h => h.edited edits⟩
  · exact view_edited (fun g => g.cell r c) (fun g e => g.cell_edit r c e) g edits
  · rw [getElem?_headers hi]
    exact congrArg some (view_edited (fun g => g.header i) (fun g e => g.header_edit i e) g edits)

/-- A sheet of one row grows by all kinds of edits. -/
theorem edits_lose_nothing_of_four :
    let g : Grid := ⟨["Month"], [["Jan"]]⟩
    let edits : List Edit := [.setCell 2 1 "7", .setHeader 3 "Sales", .addRow, .addColumn]
    g.IsRectangular ∧ (g.edited edits).IsRectangular ∧
      1 < (g.edited edits).headers.length ∧ (g.edited edits).headers[1]? = some "B" ∧
      (g.edited edits).cell 0 0 = "Jan" ∧ (g.edited edits).cell 2 1 = "7" := by
  intro g edits
  obtain ⟨hcells, -, hheaders, -, hrectangular⟩ := edits_lose_nothing g edits
  have hg : g.IsRectangular := by decide
  have hlt : 1 < (g.edited edits).headers.length := by decide
  exact ⟨hg, hrectangular hg, hlt, (hheaders 1 hlt).trans (by decide +kernel), hcells 0 0, hcells 2 1⟩

end Grid

end Infochart.Sheet
