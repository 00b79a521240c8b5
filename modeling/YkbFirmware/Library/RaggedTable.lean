import Mathlib.Data.List.Perm.Basic
import Mathlib.Data.List.Nodup
import Mathlib.Logic.Function.Basic

/-!
# Tables with rows of different widths

The cells of a table whose rows have their own widths can be listed row by row
or column by column; a row takes part in a column if it is wide enough.  Both
lists have the same cells.  With the offset of a row the number of cells
before it, the cells by rows are numbered without gap or repetition.

Cells that are written to distinct places leave the same memory in whatever
order they are written.
-/

namespace YkbFirmware.Library.RaggedTable

universe u v

variable {Cell : Type u} {Value : Type v}

/-! ## Rows and columns -/

def byRows
    (rows : Nat) (width : Nat → Nat) (cell : Nat → Nat → Cell) : List Cell :=
  (List.range rows).flatMap fun row => (List.range (width row)).map (cell row)

/-- The cells of one column. -/
def column
    (rows : Nat) (width : Nat → Nat) (cell : Nat → Nat → Cell)
    (index : Nat) : List Cell :=
  ((List.range rows).filter fun row => index < width row).map fun row =>
    cell row index

def byColumns
    (rows : Nat) (width : Nat → Nat) (columns : Nat)
    (cell : Nat → Nat → Cell) : List Cell :=
  (List.range columns).flatMap (column rows width cell)

variable {rows columns : Nat} {width : Nat → Nat} {cell : Nat → Nat → Cell}

theorem byRows_succ :
    byRows (rows + 1) width cell =
      byRows rows width cell ++ (List.range (width rows)).map (cell rows) := by
  rw [byRows, List.range_succ, List.flatMap_append, List.flatMap_singleton]
  rfl

theorem byColumns_succ :
    byColumns rows width (columns + 1) cell =
      byColumns rows width columns cell ++ column rows width cell columns := by
  rw [byColumns, List.range_succ, List.flatMap_append,
    List.flatMap_singleton]
  rfl

/-- One more row adds at most one cell to a column. -/
theorem column_succ (index : Nat) :
    column (rows + 1) width cell index =
      column rows width cell index ++
        if index < width rows then [cell rows index] else [] := by
  rw [column, List.range_succ, List.filter_append, List.map_append, ← column]
  congr 1
  by_cases wide : index < width rows
  · simp [wide]
  · simp [wide]

/-- A row read across enough columns. -/
theorem flatMap_row (enough : width rows ≤ columns) :
    ((List.range columns).flatMap fun index =>
        if index < width rows then [cell rows index] else []) =
      (List.range (width rows)).map (cell rows) := by
  rcases Nat.exists_eq_add_of_le enough with ⟨more, rfl⟩
  rw [List.range_add, List.flatMap_append]
  have past :
      (((List.range more).map fun index => width rows + index).flatMap
        fun index =>
          if index < width rows then [cell rows index] else []) = [] := by
    rw [List.flatMap_eq_nil_iff]
    intro index member
    rcases List.mem_map.mp member with ⟨extra, _, rfl⟩
    exact if_neg (by omega)
  rw [past, List.append_nil, List.map_eq_flatMap]
  apply List.flatMap_congr
  intro index member
  exact if_pos (List.mem_range.mp member)

/-- With enough columns, the cells by columns are the cells by rows. -/
theorem byColumns_perm_byRows
    (enough : ∀ row < rows, width row ≤ columns) :
    (byColumns rows width columns cell).Perm (byRows rows width cell) := by
  induction rows with
  | zero =>
      have empty : byColumns 0 width columns cell = [] := by
        rw [byColumns, List.flatMap_eq_nil_iff]
        exact fun _ _ => rfl
      rw [empty]
      exact List.Perm.refl _
  | succ rows induction =>
      have split :
          byColumns (rows + 1) width columns cell =
            (List.range columns).flatMap fun index =>
              column rows width cell index ++
                if index < width rows then [cell rows index] else [] := by
        rw [byColumns]
        exact List.flatMap_congr fun index _ => column_succ index
      rw [split, byRows_succ, ← flatMap_row (enough rows (by omega))]
      refine (List.flatMap_append_perm _ _ _).symm.trans ?_
      exact
        (induction fun row before => enough row (by omega)).append_right _

/-- A table of images is listed like the table. -/
theorem map_byRows {Image : Type v} (image : Cell → Image) :
    (byRows rows width cell).map image =
      byRows rows width fun row index => image (cell row index) := by
  induction rows with
  | zero => rfl
  | succ rows induction =>
      rw [byRows_succ, byRows_succ, List.map_append, induction, List.map_map]
      rfl

theorem mem_byRows
    {row index : Nat} (inRows : row < rows) (inRow : index < width row) :
    cell row index ∈ byRows rows width cell :=
  List.mem_flatMap.mpr
    ⟨row, List.mem_range.mpr inRows,
      List.mem_map.mpr ⟨index, List.mem_range.mpr inRow, rfl⟩⟩

/-! ## Offsets -/

/-- The number of cells before a row. -/
def offset (width : Nat → Nat) : Nat → Nat
  | 0 => 0
  | row + 1 => offset width row + width row

/-- Offset and column number the cells by rows. -/
theorem byRows_offset (rows : Nat) (width : Nat → Nat) :
    byRows rows width (fun row index => offset width row + index) =
      List.range (offset width rows) := by
  induction rows with
  | zero => rfl
  | succ rows induction =>
      rw [byRows_succ, induction, offset, List.range_add]

theorem offset_mono
    {first second : Nat} (before : first ≤ second) :
    offset width first ≤ offset width second := by
  induction before with
  | refl => exact Nat.le_refl _
  | step _ induction => exact Nat.le_trans induction (Nat.le_add_right _ _)

/-! ## Writing cells -/

/-- Write values to their places, one after the other. -/
def writeAll
    (memory : Nat → Value) (writes : List (Nat × Value)) : Nat → Value :=
  writes.foldl (fun memory write => Function.update memory write.1 write.2)
    memory

section Writes

variable
    {memory : Nat → Value} {writes others : List (Nat × Value)}
    {place : Nat} {value : Value}

theorem writeAll_append :
    writeAll memory (writes ++ others) =
      writeAll (writeAll memory writes) others :=
  List.foldl_append

/-- What is not written stays. -/
theorem writeAll_of_notMem (unwritten : place ∉ writes.map Prod.fst) :
    writeAll memory writes place = memory place := by
  induction writes generalizing memory with
  | nil => rfl
  | cons write rest induction =>
      rw [List.map_cons, List.mem_cons, not_or] at unwritten
      rw [writeAll, List.foldl_cons, ← writeAll, induction unwritten.2,
        Function.update_of_ne unwritten.1]

/-- A place written once holds what was written. -/
theorem writeAll_of_mem
    (distinct : (writes.map Prod.fst).Nodup)
    (member : (place, value) ∈ writes) :
    writeAll memory writes place = value := by
  induction writes generalizing memory with
  | nil => cases member
  | cons write rest induction =>
      rw [List.map_cons, List.nodup_cons] at distinct
      rw [writeAll, List.foldl_cons, ← writeAll]
      rcases List.mem_cons.mp member with rfl | later
      · rw [writeAll_of_notMem distinct.1, Function.update_self]
      · exact induction distinct.2 later

/-- The order of writes to distinct places does not matter. -/
theorem writeAll_perm
    (distinct : (writes.map Prod.fst).Nodup) (same : writes.Perm others) :
    writeAll memory writes = writeAll memory others := by
  funext place
  by_cases written : place ∈ writes.map Prod.fst
  · rcases List.mem_map.mp written with ⟨⟨_, value⟩, member, rfl⟩
    rw [writeAll_of_mem distinct member,
      writeAll_of_mem ((same.map Prod.fst).nodup_iff.mp distinct)
        (same.mem_iff.mp member)]
  · rw [writeAll_of_notMem written,
      writeAll_of_notMem
        fun other => written ((same.map Prod.fst).mem_iff.mpr other)]

end Writes

end YkbFirmware.Library.RaggedTable
