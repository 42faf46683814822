import Mathlib.Algebra.BigOperators.Group.List.Basic
import Mathlib.Algebra.BigOperators.Ring.List
import Mathlib.Algebra.Order.BigOperators.Group.List
import Mathlib.Algebra.Order.Ring.Int
import Mathlib.Data.List.Nodup
import Mathlib.Data.List.Perm.Basic
import YieldPool.Table

/-!
# Rows of a table as a collection

No row occurs twice, so a table is as good as the set of its rows. `insert_rows_perm` and `rows_perm_of_find?` say what
an insertion and an erasure do to that set, and `sum_insert` and `sum_erase` what they do to a sum over the rows. The
rows of a table make the table in whatever order they are put in (`insertAll_of_perm`), and so do further rows with
distinct keys (`insertAll_perm`).
-/

namespace YieldPool.Table

variable {κ α : Type} [KeyOrder κ] {key : α → κ}

/-- The sum of a quantity over all rows. -/
def sum (t : Table key) (f : α → Int) : Int := (t.rows.map f).sum

@[simp] theorem sum_empty (f : α → Int) : (empty : Table key).sum f = 0 := rfl

/-- No row occurs twice. -/
theorem rows_nodup (t : Table key) : t.rows.Nodup :=
  t.sorted.imp fun {_ _} h e => KeyOrder.ne_of_before h (congrArg key e)

/-- No key occurs twice. -/
theorem keys_nodup (t : Table key) : (t.rows.map key).Nodup :=
  List.pairwise_map.mpr (t.sorted.imp KeyOrder.ne_of_before)

/-- A sum in which every term is at most another is at most the sum of the others. -/
theorem sum_le_sum {t : Table key} {f g : α → Int} (h : ∀ a ∈ t.rows, f a ≤ g a) : t.sum f ≤ t.sum g :=
  List.sum_le_sum h

/-- A sum without negative terms is not negative. -/
theorem sum_nonneg {t : Table key} {f : α → Int} (h : ∀ a ∈ t.rows, 0 ≤ f a) : 0 ≤ t.sum f := by
  refine List.sum_nonneg fun x hx => ?_
  obtain ⟨a, ha, rfl⟩ := List.mem_map.mp hx
  exact h a ha

/-- A term is at most the sum if no other term is negative. -/
theorem le_sum {t : Table key} {f : α → Int} (h : ∀ a ∈ t.rows, 0 ≤ f a) {a : α} (ha : a ∈ t.rows) :
    f a ≤ t.sum f := by
  refine List.single_le_sum (fun x hx => ?_) (f a) (List.mem_map_of_mem ha)
  obtain ⟨b, hb, rfl⟩ := List.mem_map.mp hx
  exact h b hb

theorem sum_add (t : Table key) (f g : α → Int) : t.sum (fun a => f a + g a) = t.sum f + t.sum g :=
  List.sum_map_add

theorem sum_mul_left (t : Table key) (c : Int) (f : α → Int) : t.sum (fun a => c * f a) = c * t.sum f :=
  List.sum_map_mul_left ..

/-- The table with rows put in one after the other. -/
def insertAll (t : Table key) (rows : List α) : Table key := rows.foldl insert t

variable [DecidableEq κ]

/-- A table contains a key exactly if it finds a row for it. -/
theorem contains_eq_true_iff {t : Table key} {k : κ} : t.contains k = true ↔ ∃ a, t.find? k = some a :=
  Option.isSome_iff_exists

theorem contains_eq_false_iff {t : Table key} {k : κ} : t.contains k = false ↔ t.find? k = none := by
  rw [contains, Option.isSome_eq_false_iff, Option.isNone_iff_eq_none]

@[simp] theorem contains_empty (k : κ) : (empty : Table key).contains k = false := rfl

/-- After an insertion a table contains the key of the row, and what it contained before. -/
theorem contains_insert_eq_true_iff {t : Table key} {a : α} {k : κ} :
    (t.insert a).contains k = true ↔ key a = k ∨ t.contains k = true := by
  rw [contains, contains, find?_insert]
  split <;> simp [*]

/-- The rows that the keys of a table name in their order are its rows. -/
theorem filterMap_find?_keys (t : Table key) : (t.rows.map key).filterMap t.find? = t.rows := by
  rw [List.filterMap_map]
  refine (List.filterMap_congr fun a member => find?_eq_some_iff.mpr ⟨member, rfl⟩).trans ?_
  exact List.filterMap_some

/-- The rows of a table with a key erased are the rows of another key. -/
theorem mem_erase_rows {t : Table key} {k : κ} {a : α} : a ∈ (t.erase k).rows ↔ a ∈ t.rows ∧ key a ≠ k := by
  simp [erase]

/-- The rows after an insertion are the new one and those of another key. -/
theorem mem_insert_rows {t : Table key} {a b : α} :
    b ∈ (t.insert a).rows ↔ b = a ∨ b ∈ t.rows ∧ key b ≠ key a := by
  have found : b ∈ (t.insert a).rows ↔ (t.insert a).find? (key b) = some b :=
    (find?_eq_some_iff.trans (and_iff_left rfl)).symm
  rw [found, find?_insert]
  split
  · rename_i e
    simp [e, eq_comm]
  · rename_i e
    rw [find?_eq_some_iff]
    constructor
    · rintro ⟨hb, -⟩
      exact Or.inr ⟨hb, fun he => e he.symm⟩
    · rintro (rfl | ⟨hb, -⟩)
      · exact absurd rfl e
      · exact ⟨hb, rfl⟩

/-- What holds of all rows and of a new one holds of all rows with it. -/
theorem forall_mem_insert {t : Table key} {P : α → Prop} (rows : ∀ b ∈ t.rows, P b) {a : α} (new : P a) :
    ∀ b ∈ (t.insert a).rows, P b := by
  intro b member
  rcases mem_insert_rows.mp member with rfl | ⟨member, -⟩
  · exact new
  · exact rows b member

/-- What holds of all rows holds of those that an erasure leaves. -/
theorem forall_mem_erase {t : Table key} {P : α → Prop} (rows : ∀ b ∈ t.rows, P b) (k : κ) :
    ∀ b ∈ (t.erase k).rows, P b :=
  fun b member => rows b (mem_erase_rows.mp member).1

/-- Erasing a key without a row changes nothing. -/
theorem erase_of_find?_eq_none {t : Table key} {k : κ} (h : t.find? k = none) : t.erase k = t := by
  refine ext_find? fun j => ?_
  rw [find?_erase]
  split
  · rename_i e
    rw [← e, h]
  · rfl

/-- The rows after an insertion, in some order: the new one, and those that an erasure of its key would leave. -/
theorem insert_rows_perm (t : Table key) (a : α) : (t.insert a).rows.Perm (a :: (t.erase (key a)).rows) := by
  have fresh : a ∉ (t.erase (key a)).rows := fun h => (mem_erase_rows.mp h).2 rfl
  refine (List.perm_ext_iff_of_nodup (rows_nodup _) (List.nodup_cons.mpr ⟨fresh, rows_nodup _⟩)).mpr fun b => ?_
  rw [mem_insert_rows, List.mem_cons, mem_erase_rows]

/-- The rows in some order: the one of a key, and those that an erasure of the key would leave. -/
theorem rows_perm_of_find? {t : Table key} {k : κ} {a : α} (h : t.find? k = some a) :
    t.rows.Perm (a :: (t.erase k).rows) := by
  obtain ⟨ha, rfl⟩ := find?_eq_some_iff.mp h
  have fresh : a ∉ (t.erase (key a)).rows := fun h => (mem_erase_rows.mp h).2 rfl
  refine (List.perm_ext_iff_of_nodup (rows_nodup _) (List.nodup_cons.mpr ⟨fresh, rows_nodup _⟩)).mpr fun b => ?_
  rw [List.mem_cons, mem_erase_rows]
  constructor
  · intro hb
    by_cases e : key b = key a
    · exact Or.inl (Option.some.inj ((find?_eq_some_iff.mpr ⟨hb, e⟩).symm.trans h))
    · exact Or.inr ⟨hb, e⟩
  · rintro (rfl | ⟨hb, -⟩)
    · exact ha
    · exact hb

/-- An erasure takes the erased row's term out of a sum. -/
theorem sum_erase (t : Table key) (f : α → Int) (k : κ) : (t.erase k).sum f + (t.find? k).elim 0 f = t.sum f := by
  cases h : t.find? k with
  | none => simp [erase_of_find?_eq_none h]
  | some a =>
    have e := ((rows_perm_of_find? h).map f).sum_eq
    rw [List.map_cons, List.sum_cons] at e
    rw [sum, sum, e, Option.elim_some, Int.add_comm]

/-- The sum after an insertion: that of the rows of other keys, and the new row's term. -/
theorem sum_insert_eq (t : Table key) (f : α → Int) (a : α) :
    (t.insert a).sum f = (t.erase (key a)).sum f + f a := by
  have e := ((insert_rows_perm t a).map f).sum_eq
  rw [List.map_cons, List.sum_cons] at e
  rw [sum, sum, e, Int.add_comm]

/-- An insertion puts the new row's term into a sum, in the stead of that of a row with the same key. -/
theorem sum_insert (t : Table key) (f : α → Int) (a : α) :
    (t.insert a).sum f + (t.find? (key a)).elim 0 f = t.sum f + f a := by
  have erased := sum_erase t f (key a)
  rw [sum_insert_eq]
  omega

/-- The terms of distinct keys and those of the rows with other keys add up to the sum. Each key is looked for among the
rows that the keys before it leave. -/
theorem sum_find?_add_others (t : Table key) (f : α → Int) {keys : List κ} (distinct : keys.Nodup) :
    (keys.map fun k => (t.find? k).elim 0 f).sum + ((t.rows.filter fun a => decide (key a ∉ keys)).map f).sum =
      t.sum f := by
  induction keys generalizing t with
  | nil => simp [sum]
  | cons k rest ih =>
    obtain ⟨fresh, distinct⟩ := List.nodup_cons.mp distinct
    have found : (rest.map fun j => ((t.erase k).find? j).elim 0 f) = rest.map fun j => (t.find? j).elim 0 f := by
      refine List.map_congr_left fun j hj => ?_
      have ne : k ≠ j := fun e => fresh (e ▸ hj)
      rw [find?_erase, if_neg ne]
    have others : (t.erase k).rows.filter (fun a => decide (key a ∉ rest)) =
        t.rows.filter fun a => decide (key a ∉ k :: rest) := by
      rw [erase, List.filter_filter]
      refine List.filter_congr fun a _ => ?_
      simp only [List.mem_cons, not_or, ne_eq, Bool.decide_and, Bool.and_comm]
    have left := ih (t.erase k) distinct
    rw [found, others] at left
    have erased := sum_erase t f k
    rw [List.map_cons, List.sum_cons]
    omega

/-- The terms of distinct keys add up to at most the sum if no term is negative. -/
theorem sum_find?_le {t : Table key} {f : α → Int} (h : ∀ a ∈ t.rows, 0 ≤ f a) {keys : List κ} (distinct : keys.Nodup) :
    (keys.map fun k => (t.find? k).elim 0 f).sum ≤ t.sum f := by
  have others : 0 ≤ ((t.rows.filter fun a => decide (key a ∉ keys)).map f).sum := by
    refine List.sum_nonneg fun x hx => ?_
    obtain ⟨a, ha, rfl⟩ := List.mem_map.mp hx
    exact h a (List.mem_of_mem_filter ha)
  have whole := sum_find?_add_others t f distinct
  omega

/-- The terms of distinct keys add up to the sum if every other row's term is zero. -/
theorem sum_find?_eq {t : Table key} {f : α → Int} {keys : List κ} (distinct : keys.Nodup)
    (h : ∀ a ∈ t.rows, key a ∉ keys → f a = 0) : (keys.map fun k => (t.find? k).elim 0 f).sum = t.sum f := by
  have others : ((t.rows.filter fun a => decide (key a ∉ keys)).map f).sum = 0 := by
    refine List.sum_eq_zero fun x hx => ?_
    obtain ⟨a, ha, rfl⟩ := List.mem_map.mp hx
    obtain ⟨member, other⟩ := List.mem_filter.mp ha
    exact h a member (of_decide_eq_true other)
  have whole := sum_find?_add_others t f distinct
  omega

/-- Rows with distinct keys that a table does not have are found beside those of the table. -/
theorem find?_insertAll_eq_some_iff {t : Table key} {rows : List α} (distinct : (rows.map key).Nodup)
    (fresh : ∀ a ∈ rows, t.find? (key a) = none) {k : κ} {a : α} :
    (t.insertAll rows).find? k = some a ↔ a ∈ rows ∧ key a = k ∨ t.find? k = some a := by
  induction rows generalizing t with
  | nil => simp [insertAll]
  | cons b rest ih =>
    obtain ⟨other, distinct⟩ := List.nodup_cons.mp distinct
    obtain ⟨absent, fresh⟩ := List.forall_mem_cons.mp fresh
    have still : ∀ a ∈ rest, (t.insert b).find? (key a) = none := by
      intro a member
      have ne : key b ≠ key a := fun same => other (same ▸ List.mem_map_of_mem member)
      rw [find?_insert, if_neg ne]
      exact fresh a member
    show ((t.insert b).insertAll rest).find? k = some a ↔ _
    rw [ih distinct still, find?_insert, List.mem_cons]
    by_cases e : key b = k
    · subst e
      rw [if_pos rfl, absent, Option.some.injEq]
      constructor
      · rintro (⟨member, same⟩ | rfl)
        · exact Or.inl ⟨Or.inr member, same⟩
        · exact Or.inl ⟨Or.inl rfl, rfl⟩
      · rintro (⟨rfl | member, same⟩ | found)
        · exact Or.inr rfl
        · exact Or.inl ⟨member, same⟩
        · cases found
    · rw [if_neg e]
      refine or_congr_left (and_congr_left fun same => ⟨Or.inr, fun member => member.resolve_left fun h => e ?_⟩)
      rw [← h, same]

/-- Rows with distinct keys that are put into the empty table are its rows. -/
theorem mem_insertAll_rows {rows : List α} (distinct : (rows.map key).Nodup) {a : α} :
    a ∈ (empty.insertAll rows : Table key).rows ↔ a ∈ rows := by
  have found := find?_insertAll_eq_some_iff distinct (fun _ _ => find?_empty _) (k := key a) (a := a)
  rw [find?_eq_some_iff, find?_empty] at found
  simpa using found

/-- The rows of a table, put in in any order, make the table. -/
theorem insertAll_of_perm {t : Table key} {rows : List α} (h : rows.Perm t.rows) : empty.insertAll rows = t := by
  have distinct : (rows.map key).Nodup := (h.map key).nodup_iff.mpr t.keys_nodup
  refine ext_find? fun k => Option.ext fun a => ?_
  rw [find?_eq_some_iff, find?_eq_some_iff, mem_insertAll_rows distinct, h.mem_iff]

/-- Rows with different keys can be put in in either order. -/
theorem insert_comm (t : Table key) {a b : α} (ne : key a ≠ key b) : (t.insert a).insert b = (t.insert b).insert a := by
  refine ext_find? fun k => ?_
  rw [find?_insert, find?_insert, find?_insert, find?_insert]
  split
  · rename_i e
    rw [if_neg (e ▸ ne)]
  · rfl

/-- Rows with distinct keys can be put in in any order. -/
theorem insertAll_perm (t : Table key) {rows others : List α} (h : rows.Perm others) (distinct : (rows.map key).Nodup) :
    t.insertAll rows = t.insertAll others := by
  refine h.foldl_eq' (fun a ha b hb u => ?_) t
  by_cases e : key a = key b
  · rw [List.inj_on_of_nodup_map distinct ha hb e]
  · exact insert_comm u e

end YieldPool.Table
