import YieldPool.KeyOrder

/-!
# Tables of rows sorted by key

A table holds at most one row for each key, and the key is read off the row itself. The rows are kept in the order of
their keys, so a table is determined by what `find?` answers (`ext_find?`), however it was built.
-/

namespace YieldPool

/-- Rows in strictly increasing order of their keys. -/
structure Table {κ α : Type} [KeyOrder κ] (key : α → κ) where
  rows : List α
  sorted : rows.Pairwise fun a b => KeyOrder.before (key a) (key b) = true

namespace Table

variable {κ α : Type} [KeyOrder κ] {key : α → κ}

/-- The table without rows. -/
def empty : Table key := ⟨[], List.Pairwise.nil⟩

/-- The number of rows. -/
def size (t : Table key) : Nat := t.rows.length

/-- Puts a row at its place in a sorted list, in the stead of a row with the same key. -/
def insertRow (key : α → κ) (a : α) : List α → List α
  | [] => [a]
  | b :: rest =>
    if KeyOrder.before (key a) (key b) then a :: b :: rest
    else if KeyOrder.before (key b) (key a) then b :: insertRow key a rest
    else a :: rest

/-- Nothing comes in but the row that is put in. -/
theorem mem_insertRow {a x : α} {rows : List α} (h : x ∈ insertRow key a rows) : x = a ∨ x ∈ rows := by
  induction rows with
  | nil => simpa [insertRow] using h
  | cons b rest ih =>
    simp only [insertRow] at h
    split at h
    · simpa using h
    · split at h
      · rcases List.mem_cons.mp h with h | h
        · exact Or.inr (by simp [h])
        · exact (ih h).imp id (List.mem_cons_of_mem b)
      · rcases List.mem_cons.mp h with h | h
        · exact Or.inl h
        · exact Or.inr (List.mem_cons_of_mem b h)

/-- Rows in order stay in order. -/
theorem insertRow_sorted {a : α} {rows : List α}
    (h : rows.Pairwise fun a b => KeyOrder.before (key a) (key b) = true) :
    (insertRow key a rows).Pairwise fun a b => KeyOrder.before (key a) (key b) = true := by
  induction rows with
  | nil => simp [insertRow]
  | cons b rest ih =>
    have hb := List.pairwise_cons.mp h
    simp only [insertRow]
    split
    · rename_i hab
      refine List.pairwise_cons.mpr ⟨fun x hx => ?_, h⟩
      rcases List.mem_cons.mp hx with rfl | hx
      · exact hab
      · exact KeyOrder.trans hab (hb.1 x hx)
    · split
      · rename_i hba
        refine List.pairwise_cons.mpr ⟨fun x hx => ?_, ih hb.2⟩
        rcases mem_insertRow hx with rfl | hx
        · exact hba
        · exact hb.1 x hx
      · rename_i hab hba
        have e : key a = key b := KeyOrder.total (by simpa using hab) (by simpa using hba)
        refine List.pairwise_cons.mpr ⟨fun x hx => ?_, hb.2⟩
        rw [e]
        exact hb.1 x hx

/-- The table with one more row, or with the row of the same key replaced. -/
def insert (t : Table key) (a : α) : Table key := ⟨insertRow key a t.rows, insertRow_sorted t.sorted⟩

/-- Two sorted lists with the same members are equal. -/
theorem rows_eq_of_mem_iff {rows others : List α}
    (h : rows.Pairwise fun a b => KeyOrder.before (key a) (key b) = true)
    (k : others.Pairwise fun a b => KeyOrder.before (key a) (key b) = true)
    (same : ∀ a, a ∈ rows ↔ a ∈ others) : rows = others := by
  induction rows generalizing others with
  | nil =>
    cases others with
    | nil => rfl
    | cons c cs => exact absurd ((same c).mpr (by simp)) (by simp)
  | cons b rest ih =>
    cases others with
    | nil => exact absurd ((same b).mp (by simp)) (by simp)
    | cons c cs =>
      have hb := List.pairwise_cons.mp h
      have hc := List.pairwise_cons.mp k
      have e : b = c := by
        rcases List.mem_cons.mp ((same b).mp (by simp)) with e | hbc
        · exact e
        · rcases List.mem_cons.mp ((same c).mpr (by simp)) with e | hcb
          · exact e.symm
          · exact absurd (KeyOrder.trans (hb.1 c hcb) (hc.1 b hbc)) (by simp [KeyOrder.irrefl])
      subst e
      have tails : ∀ a, a ∈ rest ↔ a ∈ cs := by
        intro a
        constructor
        · intro ha
          rcases List.mem_cons.mp ((same a).mp (List.mem_cons_of_mem b ha)) with rfl | h'
          · exact absurd (hb.1 a ha) (by simp [KeyOrder.irrefl])
          · exact h'
        · intro ha
          rcases List.mem_cons.mp ((same a).mpr (List.mem_cons_of_mem b ha)) with rfl | h'
          · exact absurd (hc.1 a ha) (by simp [KeyOrder.irrefl])
          · exact h'
      rw [ih hb.2 hc.2 tails]

variable [DecidableEq κ]

/-- The row with a key. -/
def find? (t : Table key) (k : κ) : Option α := t.rows.find? fun a => decide (key a = k)

/-- Whether a key has a row. -/
def contains (t : Table key) (k : κ) : Bool := (t.find? k).isSome

/-- The table without the row of a key. -/
def erase (t : Table key) (k : κ) : Table key :=
  ⟨t.rows.filter fun a => decide (key a ≠ k), t.sorted.filter _⟩

/-- A row that is found has the key it was sought by. -/
theorem key_of_find? {t : Table key} {k : κ} {a : α} (h : t.find? k = some a) : key a = k := by
  simpa using List.find?_some h

/-- A row that is found is one of the table's rows. -/
theorem mem_of_find? {t : Table key} {k : κ} {a : α} (h : t.find? k = some a) : a ∈ t.rows :=
  List.mem_of_find?_eq_some h

/-- Among rows in order a row is found by its key. -/
theorem find?_eq_some_of_sorted {rows : List α}
    (h : rows.Pairwise fun a b => KeyOrder.before (key a) (key b) = true) {a : α} (ha : a ∈ rows) :
    rows.find? (fun b => decide (key b = key a)) = some a := by
  induction rows with
  | nil => simp at ha
  | cons b rest ih =>
    have hb := List.pairwise_cons.mp h
    rcases List.mem_cons.mp ha with rfl | ha
    · simp
    · have hne : key b ≠ key a := KeyOrder.ne_of_before (hb.1 a ha)
      rw [List.find?_cons_of_neg (by simpa using hne)]
      exact ih hb.2 ha

/-- A row is found by its key exactly when the table holds it. -/
theorem find?_eq_some_iff {t : Table key} {k : κ} {a : α} : t.find? k = some a ↔ a ∈ t.rows ∧ key a = k := by
  constructor
  · exact fun h => ⟨mem_of_find? h, key_of_find? h⟩
  · rintro ⟨ha, rfl⟩
    exact find?_eq_some_of_sorted t.sorted ha

@[simp] theorem find?_empty (k : κ) : (empty : Table key).find? k = none := rfl

/-- After an insertion the new row is found by its key, and every other key as before. -/
@[simp] theorem find?_insert (t : Table key) (a : α) (k : κ) :
    (t.insert a).find? k = if key a = k then some a else t.find? k := by
  obtain ⟨rows, sorted⟩ := t
  simp only [find?, insert]
  induction rows with
  | nil => by_cases h : key a = k <;> simp [insertRow, h]
  | cons b rest ih =>
    have hb := List.pairwise_cons.mp sorted
    have ih := ih hb.2
    by_cases h : key a = k
    · subst h
      simp only [insertRow]
      split
      · simp
      · split
        · rename_i hba
          have hne : key b ≠ key a := KeyOrder.ne_of_before hba
          rw [List.find?_cons_of_neg (by simpa using hne), ih]
          simp
        · simp
    · simp only [insertRow]
      split
      · simp [h]
      · split
        · simp only [h, if_false] at ih
          simp only [List.find?_cons]
          split
          · rfl
          · exact ih
        · rename_i hab hba
          have e : key a = key b := KeyOrder.total (by simpa using hab) (by simpa using hba)
          simp [h, ← e]

omit [KeyOrder κ] in
/-- Among the rows of another key than one that key is not found, and every other key as among all rows. -/
theorem find?_filter_ne (rows : List α) (k j : κ) :
    (rows.filter fun a => decide (key a ≠ k)).find? (fun a => decide (key a = j)) =
      if k = j then none else rows.find? fun a => decide (key a = j) := by
  rw [List.find?_filter]
  by_cases h : k = j
  · subst h
    rw [if_pos rfl, List.find?_eq_none]
    intro a _
    simp
  · rw [if_neg h]
    apply congrFun
    apply congrArg
    funext a
    by_cases ha : key a = j
    · simp [ha, Ne.symm h]
    · simp [ha]

/-- After an erasure the key is not found, and every other key as before. -/
@[simp] theorem find?_erase (t : Table key) (k j : κ) :
    (t.erase k).find? j = if k = j then none else t.find? j :=
  find?_filter_ne t.rows k j

/-- A table is determined by what it finds. -/
theorem ext_find? {t u : Table key} (h : ∀ k, t.find? k = u.find? k) : t = u := by
  have rows : t.rows = u.rows := by
    refine rows_eq_of_mem_iff t.sorted u.sorted fun a => ?_
    constructor
    · exact fun ha => (find?_eq_some_iff.mp ((h (key a)) ▸ find?_eq_some_iff.mpr ⟨ha, rfl⟩)).1
    · exact fun ha => (find?_eq_some_iff.mp ((h (key a)).symm ▸ find?_eq_some_iff.mpr ⟨ha, rfl⟩)).1
  cases t
  cases u
  cases rows
  rfl

end Table

instance {κ α : Type} [KeyOrder κ] {key : α → κ} [DecidableEq α] : DecidableEq (Table key) := fun t u =>
  decidable_of_iff (t.rows = u.rows) ⟨fun h => by cases t; cases u; cases h; rfl, fun h => by rw [h]⟩

end YieldPool
