import YieldPool.Operation
import YieldPool.Proofs.Json.Canonical

/-!
# Reading operations

What the checks of a single field accept, and that whatever is wrong with a list of operations is refused as an
operation. Operations that are read have a canonical form, so the texts in their fields are well-formed
(`wellFormed_of_parse`). Each is read on its own, and its place only stands in the texts of refusals, so a list is read
exactly when its parts are (`parse_append_eq_ok_iff`).
-/

namespace YieldPool.Operation

/-- A text is accepted exactly if it is not empty and not too long. -/
theorem requireText_eq_ok_iff {field : Text} {longest : Nat} {v : Value} {t : Text} :
    requireText field longest v = .ok t ↔ v = .text t ∧ t ≠ [] ∧ t.length ≤ longest := by
  unfold requireText
  split
  · rename_i u
    simp only [bind_eq_ok_iff, require_eq_ok_iff, exists_const, pure, Except.pure, Except.ok.injEq, Value.text.injEq]
    constructor
    · rintro ⟨ne, short, rfl⟩
      exact ⟨rfl, ne, short⟩
    · rintro ⟨rfl, ne, short⟩
      exact ⟨ne, short, rfl⟩
  · rename_i other
    constructor
    · intro h
      cases h
    · intro h
      exact absurd h.1 (other t)

/-- An integer is accepted exactly if it lies within the bounds. -/
theorem requireInt_eq_ok_iff {field : Text} {least greatest : Int} {v : Value} {n : Int} :
    requireInt field least greatest v = .ok n ↔ v = .int n ∧ least ≤ n ∧ n ≤ greatest := by
  unfold requireInt
  split
  · rename_i m
    simp only [bind_eq_ok_iff, require_eq_ok_iff, exists_const, pure, Except.pure, Except.ok.injEq, Value.int.injEq]
    constructor
    · rintro ⟨within, rfl⟩
      exact ⟨rfl, within⟩
    · rintro ⟨rfl, within⟩
      exact ⟨within, rfl⟩
  · rename_i other
    constructor
    · intro h
      cases h
    · intro h
      exact absurd h.1 (other n)

/-- An amount is accepted exactly if it is a positive integer of 64 bits. -/
theorem amount_eq_ok_iff {op : Operation} {n : Int} :
    op.amount = .ok n ↔ op.field "amount" = .int n ∧ 1 ≤ n ∧ n ≤ Width.u64.greatest :=
  requireInt_eq_ok_iff

/-! ## Well-formed operations -/

/-- The texts that an operation can write are well-formed. -/
structure WellFormed (op : Operation) : Prop where
  poolId : op.poolId.isWellFormed = true
  field : ∀ name t, op.field name = .text t → t.isWellFormed = true

/-- The entries of an operation are those of a mapping. -/
theorem entriesOf_eq_ok_iff {index : Nat} {entry : Value} {entries : Value.Entries} :
    entriesOf index entry = .ok entries ↔ entry.mapping? = some entries :=
  orRefuse_eq_ok_iff

/-- The size of an entry is the length of its canonical form, which it must have. -/
theorem size_eq_ok_iff {index n : Nat} {entries : Value.Entries} :
    size index entries = .ok n ↔
      ∃ bytes, (Value.dictionary entries).canonicalBytes = .ok bytes ∧ bytes.length = n := by
  unfold size
  cases (Value.dictionary entries).canonicalBytes with
  | ok bytes => simp
  | error cause => simp

/-- An operation that is read is well-formed. -/
theorem wellFormed_of_ofValue {c : Config} {index : Nat} {entry : Value} {op : Operation}
    (h : ofValue c index entry = .ok op) : op.WellFormed := by
  simp only [ofValue, bind_eq_ok_iff] at h
  obtain ⟨entries, -, _, sized, _, -, _, -, _, -, _, -, _, -, _, -, action, -, _, -, poolId, named, h⟩ := h
  cases h
  obtain ⟨bytes, canonical, -⟩ := size_eq_ok_iff.mp sized
  obtain ⟨text, -, -⟩ := requireText_eq_ok_iff.mp named
  exact ⟨Value.Entries.isWellFormed_of_canonical canonical text,
    fun name t found => Value.Entries.isWellFormed_of_canonical canonical found⟩

/-- The name of the pool of an operation that is read is not empty and not too long. -/
theorem poolId_of_ofValue {c : Config} {index : Nat} {entry : Value} {op : Operation}
    (h : ofValue c index entry = .ok op) : op.poolId ≠ [] ∧ op.poolId.length ≤ longestName := by
  simp only [ofValue, bind_eq_ok_iff] at h
  obtain ⟨entries, -, _, -, _, -, _, -, _, -, _, -, _, -, _, -, action, -, _, -, poolId, named, h⟩ := h
  cases h
  exact (requireText_eq_ok_iff.mp named).2

/-- What holds of every value that is read holds of the operations of a list. -/
theorem forall_mem_of_ofValues {c : Config} {P : Operation → Prop}
    (read : ∀ index entry op, ofValue c index entry = .ok op → P op) {index : Nat} {entries : List Value}
    {ops : List Operation} (h : ofValues c index entries = .ok ops) : ∀ op ∈ ops, P op := by
  induction entries generalizing index ops with
  | nil =>
    cases h
    exact fun _ member => absurd member List.not_mem_nil
  | cons entry rest ih =>
    simp only [ofValues, bind_eq_ok_iff] at h
    obtain ⟨first, here, others, there, h⟩ := h
    cases h
    exact List.forall_mem_cons.mpr ⟨read index entry first here, ih there⟩

/-- What holds of every operation that is read from an entry holds of all operations of a request. -/
theorem forall_mem_of_parse {c : Config} {P : Operation → Prop}
    (read : ∀ index entry op, ofValue c index entry = .ok op → P op) {v : Value} {ops : List Operation}
    (h : parse c v = .ok ops) : ∀ op ∈ ops, P op := by
  simp only [parse, bind_eq_ok_iff] at h
  obtain ⟨_, -, -, -, listed⟩ := h
  exact forall_mem_of_ofValues read listed

/-- Operations that are read are well-formed. -/
theorem wellFormed_of_parse {c : Config} {v : Value} {ops : List Operation} (h : parse c v = .ok ops) :
    ∀ op ∈ ops, op.WellFormed :=
  forall_mem_of_parse (fun _ _ _ => wellFormed_of_ofValue) h

/-! ## Reading a list in parts -/

section Parts

variable {c : Config} {xs ys : List Value} {ops : List Operation}

/-- Whether an operation is read does not depend on its place. -/
theorem ofValue_of_index {i : Nat} {entry : Value} {op : Operation} (h : ofValue c i entry = .ok op) (j : Nat) :
    ofValue c j entry = .ok op := by
  simp only [ofValue, bind_eq_ok_iff, entriesOf_eq_ok_iff, size_eq_ok_iff, require_eq_ok_iff] at h ⊢
  exact h

/-- Entries are read in their order, each with its own index. -/
theorem ofValues_cons_eq_ok_iff {i : Nat} {entry : Value} {rest : List Value} :
    ofValues c i (entry :: rest) = .ok ops ↔ ∃ first, ofValue c i entry = .ok first ∧
      ∃ others, ofValues c (i + 1) rest = .ok others ∧ first :: others = ops := by
  simp only [ofValues, bind_eq_ok_iff, pure, Except.pure, Except.ok.injEq]

/-- Whether a list is read does not depend on where it begins. -/
theorem ofValues_of_index {i : Nat} (h : ofValues c i xs = .ok ops) (j : Nat) : ofValues c j xs = .ok ops := by
  induction xs generalizing i j ops with
  | nil => exact h
  | cons entry rest ih =>
    obtain ⟨op, read, others, readOthers, joined⟩ := ofValues_cons_eq_ok_iff.mp h
    exact ofValues_cons_eq_ok_iff.mpr ⟨op, ofValue_of_index read j, others, ih readOthers (j + 1), joined⟩

/-- A list is read exactly when its two parts are. -/
theorem ofValues_append_eq_ok_iff (i : Nat) :
    ofValues c i (xs ++ ys) = .ok ops ↔ ∃ first, ofValues c i xs = .ok first ∧
      ∃ second, ofValues c i ys = .ok second ∧ first ++ second = ops := by
  induction xs generalizing i ops with
  | nil => simp [ofValues]
  | cons entry rest ih =>
    rw [List.cons_append, ofValues_cons_eq_ok_iff]
    constructor
    · rintro ⟨op, read, others, readOthers, rfl⟩
      obtain ⟨first, readFirst, second, readSecond, rfl⟩ := (ih (i + 1)).mp readOthers
      have whole := ofValues_cons_eq_ok_iff.mpr ⟨op, read, first, readFirst, rfl⟩
      exact ⟨op :: first, whole, second, ofValues_of_index readSecond i, rfl⟩
    · rintro ⟨_, whole, second, readSecond, rfl⟩
      obtain ⟨op, read, first, readFirst, rfl⟩ := ofValues_cons_eq_ok_iff.mp whole
      have later := ofValues_of_index readSecond (i + 1)
      exact ⟨op, read, first ++ second, (ih (i + 1)).mpr ⟨first, readFirst, second, later, rfl⟩, rfl⟩

/-- A value is read as operations exactly if it is a sequence that is not too long and whose items are read. -/
theorem parse_eq_ok_iff {v : Value} :
    parse c v = .ok ops ↔
      ∃ items, v.sequence? = some items ∧ (items.length : Int) ≤ c.maxOps ∧ ofValues c 0 items = .ok ops := by
  simp only [parse, bind_eq_ok_iff, orRefuse_eq_ok_iff, require_eq_ok_iff, exists_const]

/-- A list is read as operations exactly if it is not too long and each of its entries is read. -/
theorem parse_list_eq_ok_iff :
    parse c (.list xs) = .ok ops ↔ (xs.length : Int) ≤ c.maxOps ∧ ofValues c 0 xs = .ok ops := by
  simp [parse_eq_ok_iff, Value.sequence?]

/-- A list that is not too long is read exactly when its two parts are. -/
theorem parse_append_eq_ok_iff (few : (xs.length + ys.length : Int) ≤ c.maxOps) :
    parse c (.list (xs ++ ys)) = .ok ops ↔ ∃ first, parse c (.list xs) = .ok first ∧
      ∃ second, parse c (.list ys) = .ok second ∧ first ++ second = ops := by
  have whole : ((xs ++ ys).length : Int) ≤ c.maxOps := by
    rw [List.length_append]
    omega
  have left : (xs.length : Int) ≤ c.maxOps := by omega
  have right : (ys.length : Int) ≤ c.maxOps := by omega
  simp only [parse_list_eq_ok_iff, whole, left, right, true_and]
  exact ofValues_append_eq_ok_iff 0

end Parts

/-! ## What is refused -/

variable {E : Error → Prop} (operation : ∀ r, E (.operation r))

include operation

@[simp] theorem refusesWith_requireText (field : Text) (longest : Nat) (v : Value) :
    RefusesWith E (requireText field longest v) := by
  unfold requireText
  split <;> simp [operation]

@[simp] theorem refusesWith_requireInt (field : Text) (least greatest : Int) (v : Value) :
    RefusesWith E (requireInt field least greatest v) := by
  unfold requireInt
  split <;> simp [operation]

@[simp] theorem refusesWith_amount (op : Operation) : RefusesWith E op.amount :=
  refusesWith_requireInt operation _ _ _ _

theorem refusesWith_ofValue (c : Config) (index : Nat) (entry : Value) : RefusesWith E (ofValue c index entry) := by
  have entries : RefusesWith E (entriesOf index entry) := by
    simp [entriesOf, operation]
  have size : ∀ entries, RefusesWith E (Operation.size index entries) := by
    intro entries
    unfold Operation.size
    split <;> simp [operation]
  simp [ofValue, entries, size, operation]

theorem refusesWith_ofValues (c : Config) (index : Nat) (entries : List Value) :
    RefusesWith E (ofValues c index entries) := by
  induction entries generalizing index with
  | nil => exact refusesWith_ok []
  | cons entry rest ih => simp [ofValues, refusesWith_ofValue operation, ih]

/-- Whatever is wrong with a list of operations is refused as an operation. -/
theorem refusesWith_parse (c : Config) (v : Value) : RefusesWith E (parse c v) := by
  simp [parse, refusesWith_ofValues operation, operation]

end YieldPool.Operation
