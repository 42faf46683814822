import YieldPool.Proofs.KeyOrder
import YieldPool.Proofs.Table

/-!
# Rows in the order of their arrival

A dictionary keeps its rows in the order in which their keys arrived: a row takes the place of the one with its key, and
comes last if there is none. `Arrivals.table` is the sorted table of the same rows. It finds the same rows
(`find?_table`), a row that is put in is inserted (`table_put`) and a row that is dropped is erased (`table_drop`).
Dictionaries have the same table exactly if they hold the same rows, in whatever order these arrived (`table_eq_iff`).
-/

namespace YieldPool

/-- Rows with different keys in the order in which the keys arrived. -/
structure Arrivals {κ α : Type} (key : α → κ) where
  rows : List α
  distinct : (rows.map key).Nodup

namespace Arrivals

variable {κ α : Type} {key : α → κ}

/-- The dictionary without rows. -/
def empty : Arrivals key := ⟨[], List.nodup_nil⟩

section Table

variable [KeyOrder κ]

/-- The sorted table of the same rows. -/
def table (t : Arrivals key) : Table key := ⟨KeyOrder.sortBy key t.rows, KeyOrder.sorted_sortBy t.distinct⟩

/-- The table has the same rows. -/
theorem rows_table_perm (t : Arrivals key) : t.table.rows.Perm t.rows := KeyOrder.sortBy_perm key t.rows

end Table

variable [DecidableEq κ]

/-! ## Putting and dropping rows -/

/-- Rows with a row put in the place of the one with its key, or at the end if there is none. -/
def putRow (key : α → κ) (a : α) : List α → List α
  | [] => [a]
  | b :: rest => if key b = key a then a :: rest else b :: putRow key a rest

/-- A known key keeps its place, and a new one comes last. -/
theorem map_key_putRow (a : α) (rows : List α) :
    (putRow key a rows).map key = if key a ∈ rows.map key then rows.map key else rows.map key ++ [key a] := by
  induction rows with
  | nil => rfl
  | cons b rest ih =>
    rw [putRow]
    split
    · rename_i same
      simp [same]
    · rename_i other
      have later : key a ∈ (b :: rest).map key ↔ key a ∈ rest.map key := by simp [Ne.symm other]
      rw [List.map_cons, ih, if_congr later rfl rfl]
      split <;> rfl

/-- The row that was put in is found by its key, and every other key as before. -/
theorem find?_putRow (a : α) (rows : List α) (k : κ) :
    (putRow key a rows).find? (fun b => decide (key b = k)) =
      if key a = k then some a else rows.find? fun b => decide (key b = k) := by
  induction rows with
  | nil => by_cases h : key a = k <;> simp [putRow, h]
  | cons b rest ih =>
    rw [putRow]
    split
    · rename_i same
      by_cases h : key a = k <;> simp [h, same]
    · rename_i other
      by_cases h : key b = k
      · have new : key a ≠ k := fun e => other (h.trans e.symm)
        simp [h, new]
      · simpa [h] using ih

/-- The dictionary with a row put in. -/
def put (t : Arrivals key) (a : α) : Arrivals key where
  rows := putRow key a t.rows
  distinct := by
    rw [map_key_putRow]
    split
    · exact t.distinct
    · rename_i new
      exact List.nodup_append.mpr ⟨t.distinct, List.nodup_singleton _, fun k known j new' => by
        rw [List.mem_singleton.mp new']
        exact fun same => new (same ▸ known)⟩

/-- The dictionary without the row of a key. -/
def drop (t : Arrivals key) (k : κ) : Arrivals key :=
  ⟨t.rows.filter fun a => decide (key a ≠ k), t.distinct.sublist (List.filter_sublist.map key)⟩

/-- The row of a key. -/
def find? (t : Arrivals key) (k : κ) : Option α := t.rows.find? fun a => decide (key a = k)

/-- A row is found by its key exactly when the dictionary holds it. -/
theorem find?_eq_some_iff {t : Arrivals key} {k : κ} {a : α} : t.find? k = some a ↔ a ∈ t.rows ∧ key a = k := by
  constructor
  · intro found
    exact ⟨List.mem_of_find?_eq_some found, by simpa using List.find?_some found⟩
  · rintro ⟨member, rfl⟩
    cases found : t.find? (key a) with
    | none => exact absurd rfl (of_decide_eq_false (Bool.eq_false_iff.mpr (List.find?_eq_none.mp found a member)))
    | some b =>
      have same : key b = key a := by simpa using List.find?_some found
      rw [List.inj_on_of_nodup_map t.distinct (List.mem_of_find?_eq_some found) member same]

/-- After a row was put in, it is found by its key, and every other key as before. -/
theorem find?_put (t : Arrivals key) (a : α) (k : κ) :
    (t.put a).find? k = if key a = k then some a else t.find? k :=
  find?_putRow a t.rows k

/-- After a key was dropped, it is not found, and every other key as before. -/
theorem find?_drop (t : Arrivals key) (k j : κ) : (t.drop k).find? j = if k = j then none else t.find? j :=
  Table.find?_filter_ne t.rows k j

/-! ## What the table keeps of it -/

variable [KeyOrder κ]

/-- The table finds the same row. -/
@[simp] theorem find?_table (t : Arrivals key) (k : κ) : t.table.find? k = t.find? k := by
  refine Option.ext fun a => ?_
  rw [Table.find?_eq_some_iff, find?_eq_some_iff, t.rows_table_perm.mem_iff]

/-- A row that is put in is inserted into the table. -/
@[simp] theorem table_put (t : Arrivals key) (a : α) : (t.put a).table = t.table.insert a := by
  refine Table.ext_find? fun k => ?_
  rw [find?_table, find?_put, Table.find?_insert, find?_table]

/-- A key that is dropped is erased from the table. -/
@[simp] theorem table_drop (t : Arrivals key) (k : κ) : (t.drop k).table = t.table.erase k := by
  refine Table.ext_find? fun j => ?_
  rw [find?_table, find?_drop, Table.find?_erase, find?_table]

/-- Dictionaries have the same table exactly if they hold the same rows, in whatever order they arrived. -/
theorem table_eq_iff {t u : Arrivals key} : t.table = u.table ↔ t.rows.Perm u.rows := by
  constructor
  · intro same
    exact (t.rows_table_perm.symm.trans (List.Perm.of_eq (congrArg Table.rows same))).trans u.rows_table_perm
  · intro same
    refine Table.ext_find? fun k => Option.ext fun a => ?_
    rw [find?_table, find?_table, find?_eq_some_iff, find?_eq_some_iff, same.mem_iff]

end Arrivals

end YieldPool
