import YieldPool.Proofs.Json.Alike

/-!
# Documents in order

A value becomes a document with the members of every object sorted by name. A document that is in this order already
(`Json.Sorted`) comes back the same when it is read as a value and made a document again (`Sorted.toJson_toValue`), and
an object that is made by `record` is in order if what it holds is.
-/

namespace YieldPool.Json

/-- The members of every object in a document are in the order of their names, no two of which are the same. -/
inductive Sorted : Json → Prop
  | null : Sorted .null
  | bool (b : Bool) : Sorted (.bool b)
  | int (n : Int) : Sorted (.int n)
  | text (t : Text) : Sorted (.text t)
  | array {items : List Json} : (∀ x ∈ items, Sorted x) → Sorted (.array items)
  | object {members : List (Text × Json)} : (members.Pairwise fun a b => KeyOrder.before a.1 b.1 = true) →
      (∀ m ∈ members, Sorted m.2) → Sorted (.object members)

/-- An object with distinct names is in order if what it holds is. -/
theorem sorted_record {members : List (Text × Json)} (distinct : (members.map Prod.fst).Nodup)
    (sorted : ∀ m ∈ members, m.2.Sorted) : (record members).Sorted := by
  refine .object (KeyOrder.sorted_sortBy distinct) fun m member => ?_
  exact sorted m ((KeyOrder.sortBy_perm Prod.fst members).mem_iff.mp member)

/-- Items that are what their values become are so as a list. -/
theorem itemsToJson_of_forall {items : List Json} (again : ∀ x ∈ items, x.toValue.toJson = .ok x) :
    Value.itemsToJson (itemsToValues items) = .ok items := by
  induction items with
  | nil => rfl
  | cons x rest ih =>
    obtain ⟨first, others⟩ := List.forall_mem_cons.mp again
    exact Value.itemsToJson_cons_eq_ok_iff.mpr ⟨x, first, rest, ih others, rfl⟩

/-- Members become themselves again if their documents do. -/
theorem becomes_of_forall {members : List (Text × Json)} (again : ∀ m ∈ members, m.2.toValue.toJson = .ok m.2) :
    List.Forall₂ Value.Becomes (membersToEntries members) members := by
  induction members with
  | nil => exact .nil
  | cons m rest ih =>
    obtain ⟨first, others⟩ := List.forall_mem_cons.mp again
    exact .cons ⟨rfl, first⟩ (ih others)

/-- A document in order is what its value becomes. -/
theorem Sorted.toJson_toValue {j : Json} (sorted : j.Sorted) : j.toValue.toJson = .ok j := by
  induction sorted with
  | null | bool | int | text => rfl
  | array _ ih => exact (Value.toJson_array_eq_ok_iff rfl).mpr ⟨_, itemsToJson_of_forall ih, rfl⟩
  | object ordered _ ih =>
    exact Value.toJson_dictionary_eq_ok_iff.mpr ⟨_, becomes_of_forall ih,
      congrArg Json.object (KeyOrder.sortBy_of_sorted ordered)⟩

end YieldPool.Json
