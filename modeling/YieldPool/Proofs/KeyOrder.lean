import Mathlib.Data.List.Pairwise
import YieldPool.Table

/-!
# Sorting by key

Rows with different keys are sorted into strictly increasing order (`sorted_sortBy`). As a list in this order is
determined by its members, it does not matter in which order the rows are given (`sortBy_of_perm`), and rows that are in
order stay as they are (`sortBy_of_sorted`).
-/

namespace YieldPool.KeyOrder

variable {κ α : Type} [KeyOrder κ] {key : α → κ} {rows others : List α}

section Map

variable {β : Type} {f : α → β} {other : β → κ}

/-- A row is put in at the same place in rows with the same keys. -/
theorem insertBy_map (same : ∀ a, other (f a) = key a) (a : α) (rows : List α) :
    insertBy other (f a) (rows.map f) = (insertBy key a rows).map f := by
  induction rows with
  | nil => rfl
  | cons b rest ih =>
    rw [List.map_cons, insertBy, insertBy, ih, same, same]
    split <;> rfl

/-- Rows are sorted in the same way as others with the same keys. -/
theorem sortBy_map (same : ∀ a, other (f a) = key a) : sortBy other (rows.map f) = (sortBy key rows).map f := by
  have step : ∀ rows sorted : List α,
      (rows.map f).foldl (fun sorted b => insertBy other b sorted) (sorted.map f) =
        (rows.foldl (fun sorted a => insertBy key a sorted) sorted).map f := by
    intro rows
    induction rows with
    | nil => exact fun _ => rfl
    | cons a rest ih =>
      intro sorted
      rw [List.map_cons, List.foldl_cons, insertBy_map same, ih, List.foldl_cons]
  exact step rows []

end Map

/-- A row is put in among rows in order. -/
theorem sorted_insertBy (sorted : rows.Pairwise fun a b => before (key a) (key b) = true) {a : α}
    (new : key a ∉ rows.map key) : (insertBy key a rows).Pairwise fun a b => before (key a) (key b) = true := by
  induction rows with
  | nil => exact List.pairwise_singleton _ a
  | cons b rest ih =>
    obtain ⟨first, ordered⟩ := List.pairwise_cons.mp sorted
    rw [List.map_cons, List.mem_cons, not_or] at new
    rw [insertBy]
    split
    · rename_i here
      refine List.pairwise_cons.mpr ⟨fun c member => ?_, sorted⟩
      rcases List.mem_cons.mp member with rfl | later
      · exact here
      · exact trans here (first c later)
    · rename_i later
      have behind : before (key b) (key a) = true := by
        by_contra other
        exact new.1 (total (Bool.eq_false_iff.mpr later) (Bool.eq_false_iff.mpr other))
      refine List.pairwise_cons.mpr ⟨fun c member => ?_, ih ordered new.2⟩
      rcases List.mem_cons.mp ((insertBy_perm key a rest).mem_iff.mp member) with rfl | among
      · exact behind
      · exact first c among

/-- Rows with different keys are sorted into strictly increasing order. What was put in so far is in order, and its keys
are not those of the rows to come. -/
theorem sorted_sortBy (distinct : (rows.map key).Nodup) :
    (sortBy key rows).Pairwise fun a b => before (key a) (key b) = true := by
  have step : ∀ (rows sorted : List α), sorted.Pairwise (fun a b => before (key a) (key b) = true) →
      ((sorted ++ rows).map key).Nodup →
        (rows.foldl (fun sorted a => insertBy key a sorted) sorted).Pairwise
          fun a b => before (key a) (key b) = true := by
    intro rows
    induction rows with
    | nil => exact fun sorted ordered _ => ordered
    | cons a rest ih =>
      intro sorted ordered distinct
      have moved : (sorted ++ a :: rest).Perm (a :: (sorted ++ rest)) := List.perm_middle
      have front : ((a :: (sorted ++ rest)).map key).Nodup := (moved.map key).nodup_iff.mp distinct
      rw [List.map_cons, List.nodup_cons, List.map_append, List.mem_append, not_or] at front
      refine ih _ (sorted_insertBy ordered front.1.1) ?_
      have same : (insertBy key a sorted ++ rest).Perm (sorted ++ a :: rest) :=
        ((insertBy_perm key a sorted).append_right rest).trans moved.symm
      exact (same.map key).nodup_iff.mpr distinct
  exact step rows [] List.Pairwise.nil distinct

/-- Pairs with the same first part are ordered by the second. -/
theorem before_prod_of_eq {μ : Type} [KeyOrder μ] {a b : κ × μ} (same : a.1 = b.1) :
    before a b = true ↔ before a.2 b.2 = true := by
  show (before a.1 b.1 || (!before b.1 a.1 && before a.2 b.2)) = true ↔ _
  rw [same, irrefl]
  simp

/-- It does not matter in which order rows with different keys are given. -/
theorem sortBy_of_perm (same : rows.Perm others) (distinct : (rows.map key).Nodup) :
    sortBy key rows = sortBy key others := by
  refine Table.rows_eq_of_mem_iff (sorted_sortBy distinct)
    (sorted_sortBy ((same.map key).nodup_iff.mp distinct)) fun a => ?_
  rw [(sortBy_perm key rows).mem_iff, (sortBy_perm key others).mem_iff]
  exact same.mem_iff

/-- Rows in order have different keys. -/
theorem nodup_of_sorted (sorted : rows.Pairwise fun a b => before (key a) (key b) = true) : (rows.map key).Nodup :=
  List.pairwise_map.mpr (sorted.imp ne_of_before)

/-- Rows in order stay as they are. -/
theorem sortBy_of_sorted (sorted : rows.Pairwise fun a b => before (key a) (key b) = true) :
    sortBy key rows = rows :=
  Table.rows_eq_of_mem_iff (sorted_sortBy (nodup_of_sorted sorted)) sorted
    fun _ => (sortBy_perm key rows).mem_iff

end YieldPool.KeyOrder
