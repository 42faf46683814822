import Mathlib.Data.List.Forall2
import Mathlib.Data.List.Perm.Basic
import YieldPool.Json.Canonical
import YieldPool.Proofs.KeyOrder
import YieldPool.Proofs.Refusal

/-!
# What has a canonical form

The members of an object are sorted before they are written, which makes no difference where all of them can be written
(`Value.toJson_dictionary_eq_ok_iff`). A document holds neither floating point numbers nor values of a kind that cannot
be written, so it has a canonical form exactly when all texts in it are well-formed, the names of members included
(`canonicalBytes_toValue_iff`). A dictionary that has a canonical form has only well-formed texts under its keys
(`Entries.isWellFormed_of_canonical`).
-/

namespace YieldPool

/-! ## Well-formed texts -/

namespace Text

/-- A character is never a surrogate. -/
theorem isSurrogate_ofChar (c : Char) : (CodePoint.ofChar c).isSurrogate = false := by
  have value : (CodePoint.ofChar c).val = c.val.toNat := rfl
  rw [CodePoint.isSurrogate, decide_eq_false_iff_not, value]
  rcases c.valid with h | h <;> omega

@[simp] theorem isWellFormed_ofString (s : String) : (ofString s).isWellFormed = true := by
  simp [isWellFormed, ofString, isSurrogate_ofChar]

/-- Texts are well-formed together exactly if each of them is. -/
@[simp] theorem isWellFormed_append (t u : Text) :
    (t ++ u).isWellFormed = true ↔ t.isWellFormed = true ∧ u.isWellFormed = true := by
  simp [isWellFormed, List.all_append]

end Text

/-! ## Values -/

namespace Value

/-- Nothing in entries is refused exactly if every key is a well-formed text and nothing in its value is refused. -/
theorem entriesRefusal?_eq_none_iff {entries : Entries} :
    entriesRefusal? entries = none ↔
      ∀ entry ∈ entries, ∃ t, entry.1 = .text t ∧ t.isWellFormed = true ∧ entry.2.refusal? = none := by
  induction entries with
  | nil => simp [entriesRefusal?]
  | cons entry rest ih =>
    obtain ⟨key, v⟩ := entry
    cases key with
    | text t => simp [entriesRefusal?, ih, and_assoc]
    | _ => simp [entriesRefusal?]

/-- The canonical form of a value is its compact document in UTF-8, unless something in it is refused. -/
theorem canonicalBytes_eq_ok_iff {v : Value} {bytes : List UInt8} :
    v.canonicalBytes = .ok bytes ↔
      v.refusal? = none ∧ ∃ document, v.toJson = .ok document ∧ (document.render .compact 0).utf8 = bytes := by
  simp only [canonicalBytes, canonicalText, canonical, bind_eq_ok_iff, pure, Except.pure, Except.ok.injEq]
  cases v.refusal? with
  | none =>
    constructor
    · rintro ⟨text, ⟨document, written, rfl⟩, rfl⟩
      exact ⟨rfl, document, written, rfl⟩
    · rintro ⟨-, document, written, rfl⟩
      exact ⟨_, ⟨document, written, rfl⟩, rfl⟩
  | some refusal => simp

/-- A value has a canonical form exactly when nothing in it is refused and it can be made a document. -/
theorem canonicalBytes_ok_iff {v : Value} :
    (∃ bytes, v.canonicalBytes = .ok bytes) ↔ v.refusal? = none ∧ ∃ document, v.toJson = .ok document := by
  simp only [canonicalBytes_eq_ok_iff, exists_and_left, exists_comm (α := List UInt8), exists_eq', and_true]

/-! ## Documents of rows -/

/-- An entry becomes a member of an object. -/
def Becomes (entry : Value × Value) (member : Text × Json) : Prop :=
  entry.1 = .text member.1 ∧ entry.2.toJson = .ok member.2

/-- The items of a value that is written as an array: a list or a tuple. -/
def array? : Value → Option (List Value)
  | .list items | .tuple items => some items
  | _ => none

/-- A list or a tuple becomes the array of what its items become. -/
theorem toJson_array_eq_ok_iff {v : Value} {items : List Value} (listed : v.array? = some items) {j : Json} :
    v.toJson = .ok j ↔ ∃ documents, itemsToJson items = .ok documents ∧ .array documents = j := by
  cases v with
  | list | tuple =>
    cases listed
    simp only [toJson, bind_eq_ok_iff, pure, Except.pure, Except.ok.injEq]
  | _ => cases listed

/-- A list of items becomes what its first item and the others become. -/
theorem itemsToJson_cons_eq_ok_iff {x : Value} {rest : List Value} {documents : List Json} :
    itemsToJson (x :: rest) = .ok documents ↔
      ∃ j, x.toJson = .ok j ∧ ∃ others, itemsToJson rest = .ok others ∧ j :: others = documents := by
  simp only [itemsToJson, bind_eq_ok_iff, pure, Except.pure, Except.ok.injEq]

/-- Entries become members one by one, whether or not these can be written. -/
theorem entriesToJson_eq_ok_iff {entries : Entries} {pending : List PendingMember} :
    entriesToJson entries = .ok pending ↔
      List.Forall₂ (fun entry m => entry.1 = .text m.1 ∧ entry.2.toJson = m.2) entries pending := by
  induction entries generalizing pending with
  | nil =>
    rw [List.forall₂_nil_left_iff, entriesToJson, Except.ok.injEq]
    exact eq_comm
  | cons entry rest ih =>
    obtain ⟨key, v⟩ := entry
    rw [List.forall₂_cons_left_iff]
    cases key with
    | text name =>
      simp only [entriesToJson, bind_eq_ok_iff, ih, pure, Except.pure, Except.ok.injEq, Prod.exists]
      constructor
      · rintro ⟨others, become, rfl⟩
        exact ⟨name, v.toJson, others, ⟨rfl, rfl⟩, become, rfl⟩
      · rintro ⟨_, _, others, ⟨same, rfl⟩, become, rfl⟩
        cases same
        exact ⟨others, become, rfl⟩
    | _ => simp [entriesToJson]

/-- A member whose document is there. -/
def complete (m : Text × Json) : PendingMember := (m.1, .ok m.2)

theorem complete_injective : Function.Injective complete := by
  rintro ⟨name, j⟩ ⟨_, _⟩ same
  cases same
  rfl

/-- Members are written exactly if each has its document. -/
theorem mapM_write_eq_ok_iff {pending : List PendingMember} {members : List (Text × Json)} :
    pending.mapM PendingMember.write = .ok members ↔ pending = members.map complete := by
  induction pending generalizing members with
  | nil => cases members <;> simp [pure, Except.pure]
  | cons m rest ih =>
    simp only [List.mapM_cons, PendingMember.write, bind_eq_ok_iff, pure, Except.pure, Except.ok.injEq]
    constructor
    · rintro ⟨_, ⟨j, document, rfl⟩, others, written, rfl⟩
      rw [List.map_cons, ← ih.mp written, complete, ← document]
    · intro same
      cases members with
      | nil => cases same
      | cons first others =>
        obtain ⟨rfl, rfl⟩ := List.cons.inj same
        exact ⟨_, ⟨first.2, rfl, rfl⟩, others, ih.mpr rfl, rfl⟩

/-- A dictionary becomes the object of the members that its entries become, whatever their order. What is sorted has all
its documents only if what it was sorted from has them. -/
theorem toJson_dictionary_eq_ok_iff {entries : Entries} {j : Json} :
    (dictionary entries).toJson = .ok j ↔ ∃ members, List.Forall₂ Becomes entries members ∧ .record members = j := by
  have become : ∀ members, List.Forall₂ Becomes entries members ↔
      entriesToJson entries = .ok (members.map complete) := by
    intro members
    rw [entriesToJson_eq_ok_iff, List.forall₂_map_right_iff]
    rfl
  simp only [toJson, bind_eq_ok_iff, mapM_write_eq_ok_iff, pure, Except.pure, Except.ok.injEq]
  constructor
  · rintro ⟨pending, found, written, sorted, rfl⟩
    have arranged : pending.Perm (written.map complete) := sorted ▸ (KeyOrder.sortBy_perm Prod.fst pending).symm
    obtain ⟨members, complete, -⟩ := List.perm_comp_forall₂ arranged
      (List.forall₂_map_left_iff.mpr (List.forall₂_same.mpr fun _ _ => rfl) :
        List.Forall₂ (fun m n => m = Value.complete n) (written.map Value.complete) written)
    have whole : pending = members.map Value.complete :=
      List.forall₂_eq_eq_eq ▸ List.forall₂_map_right_iff.mpr complete
    subst whole
    rw [KeyOrder.sortBy_map fun _ => rfl] at sorted
    have same := List.map_injective_iff.mpr complete_injective sorted
    exact ⟨members, (become members).mpr found, congrArg Json.object same⟩
  · rintro ⟨members, listed, rfl⟩
    exact ⟨_, (become members).mp listed, _, KeyOrder.sortBy_map fun _ => rfl, rfl⟩

/-- What is found under a name is the value of an entry. -/
theorem Entries.mem_of_get? {entries : Entries} {name : Text} {v : Value} (found : entries.get? name = some v) :
    ∃ entry ∈ entries, entry.2 = v := by
  obtain ⟨entry, first, same⟩ := Option.map_eq_some_iff.mp found
  exact ⟨entry, List.mem_of_find?_eq_some first, same⟩

/-- A dictionary that has a canonical form has only well-formed texts under its keys. -/
theorem Entries.isWellFormed_of_canonical {entries : Entries} {bytes : List UInt8}
    (canonical : (dictionary entries).canonicalBytes = .ok bytes) {name t : Text}
    (found : entries.getD name = .text t) : t.isWellFormed = true := by
  obtain ⟨accepted, -⟩ := canonicalBytes_ok_iff.mp ⟨bytes, canonical⟩
  rw [refusal?, entriesRefusal?_eq_none_iff] at accepted
  cases value : entries.get? name with
  | none =>
    rw [getD, value] at found
    cases found
  | some v =>
    obtain ⟨entry, member, rfl⟩ := mem_of_get? value
    obtain ⟨-, -, -, unrefused⟩ := accepted entry member
    rw [getD, value, Option.getD_some] at found
    rw [found, refusal?] at unrefused
    cases formed : t.isWellFormed with
    | true => rfl
    | false =>
      rw [formed] at unrefused
      cases unrefused

end Value

/-! ## Documents -/

namespace Json

mutual

/-- All texts in a document are well-formed, and all names of members. -/
def isWellFormed : Json → Bool
  | .null | .bool _ | .int _ => true
  | .text t => t.isWellFormed
  | .array items => itemsWellFormed items
  | .object members => membersWellFormed members
termination_by structural j => j

/-- All items of an array are well-formed. -/
def itemsWellFormed : List Json → Bool
  | [] => true
  | x :: rest => x.isWellFormed && itemsWellFormed rest
termination_by structural items => items

/-- All members of an object are well-formed, and so are their names. -/
def membersWellFormed : List (Text × Json) → Bool
  | [] => true
  | (name, x) :: rest => name.isWellFormed && x.isWellFormed && membersWellFormed rest
termination_by structural members => members

end

/-- Items are well-formed together exactly if each of them is. -/
theorem itemsWellFormed_iff {items : List Json} :
    itemsWellFormed items = true ↔ ∀ x ∈ items, x.isWellFormed = true := by
  induction items with
  | nil => simp [itemsWellFormed]
  | cons x rest ih => simp [itemsWellFormed, ih]

/-- Members are well-formed together exactly if each name and each document is. -/
theorem membersWellFormed_iff {members : List (Text × Json)} :
    membersWellFormed members = true ↔ ∀ m ∈ members, m.1.isWellFormed = true ∧ m.2.isWellFormed = true := by
  induction members with
  | nil => simp [membersWellFormed]
  | cons m rest ih => simp [membersWellFormed, ih]

mutual

/-- A document is refused exactly for a text that is not well-formed. -/
theorem refusal?_toValue_iff : ∀ j : Json, j.toValue.refusal? = none ↔ j.isWellFormed = true
  | .null | .bool _ | .int _ => by simp [toValue, Value.refusal?, isWellFormed]
  | .text t => by simp [toValue, Value.refusal?, isWellFormed]
  | .array items => by simpa only [toValue, Value.refusal?, isWellFormed] using itemsRefusal?_iff items
  | .object members => by simpa only [toValue, Value.refusal?, isWellFormed] using entriesRefusal?_iff members
termination_by structural j => j

/-- Nothing in the values of documents is refused exactly if the documents are well-formed. -/
theorem itemsRefusal?_iff : ∀ items : List Json,
    Value.itemsRefusal? (itemsToValues items) = none ↔ itemsWellFormed items = true
  | [] => by simp [itemsToValues, Value.itemsRefusal?, itemsWellFormed]
  | x :: rest => by
    simp [itemsToValues, Value.itemsRefusal?, itemsWellFormed, refusal?_toValue_iff x, itemsRefusal?_iff rest]
termination_by structural items => items

/-- Nothing in the entries of members is refused exactly if the members are well-formed. -/
theorem entriesRefusal?_iff : ∀ members : List (Text × Json),
    Value.entriesRefusal? (membersToEntries members) = none ↔ membersWellFormed members = true
  | [] => by simp [membersToEntries, Value.entriesRefusal?, membersWellFormed]
  | (name, x) :: rest => by
    simp [membersToEntries, Value.entriesRefusal?, membersWellFormed, refusal?_toValue_iff x, entriesRefusal?_iff rest,
      and_assoc]
termination_by structural members => members

end

mutual

/-- A document becomes a document again. -/
theorem toJson_toValue : ∀ j : Json, ∃ k, j.toValue.toJson = .ok k
  | .null => ⟨_, rfl⟩
  | .bool _ => ⟨_, rfl⟩
  | .int _ => ⟨_, rfl⟩
  | .text _ => ⟨_, rfl⟩
  | .array items => by
    obtain ⟨documents, h⟩ := itemsToJson_itemsToValues items
    exact ⟨.array documents, by rw [toValue, Value.toJson, h]; rfl⟩
  | .object members => by
    obtain ⟨documents, become⟩ := exists_becomes_membersToEntries members
    exact ⟨.record documents, Value.toJson_dictionary_eq_ok_iff.mpr ⟨documents, become, rfl⟩⟩
termination_by structural j => j

/-- The values of documents become documents again. -/
theorem itemsToJson_itemsToValues : ∀ items : List Json,
    ∃ documents, Value.itemsToJson (itemsToValues items) = .ok documents
  | [] => ⟨_, rfl⟩
  | x :: rest => by
    obtain ⟨document, first⟩ := toJson_toValue x
    obtain ⟨documents, others⟩ := itemsToJson_itemsToValues rest
    exact ⟨document :: documents, by rw [itemsToValues, Value.itemsToJson, first, others]; rfl⟩
termination_by structural items => items

/-- The entries of members become members again. -/
theorem exists_becomes_membersToEntries : ∀ members : List (Text × Json),
    ∃ documents, List.Forall₂ Value.Becomes (membersToEntries members) documents
  | [] => ⟨_, .nil⟩
  | (name, x) :: rest => by
    obtain ⟨document, first⟩ := toJson_toValue x
    obtain ⟨documents, others⟩ := exists_becomes_membersToEntries rest
    exact ⟨(name, document) :: documents, .cons ⟨rfl, first⟩ others⟩
termination_by structural members => members

end

/-- A document has a canonical form exactly when it is well-formed. -/
theorem canonicalBytes_toValue_iff {j : Json} :
    (∃ bytes, j.toValue.canonicalBytes = .ok bytes) ↔ j.isWellFormed = true := by
  rw [Value.canonicalBytes_ok_iff, refusal?_toValue_iff]
  exact and_iff_left j.toJson_toValue

/-! ## Records -/

/-- A record is well-formed exactly if each of its names and documents is. -/
theorem isWellFormed_record_iff {members : List (Text × Json)} :
    (record members).isWellFormed = true ↔ ∀ m ∈ members, m.1.isWellFormed = true ∧ m.2.isWellFormed = true := by
  rw [record, isWellFormed, membersWellFormed_iff]
  exact forall_congr' fun m => by rw [(KeyOrder.sortBy_perm Prod.fst members).mem_iff]

end Json

end YieldPool
