import Mathlib.Data.List.Perm.Basic
import Mathlib.Data.List.Forall2
import Mathlib.Data.List.Nodup
import YieldPool.Proofs.Json.Canonical
import YieldPool.Proofs.KeyOrder

/-!
# Values up to the order of entries

Two values are alike if they are the same but for the order in which dictionaries list their entries (`Value.Alike`); a
tuple, which no document tells from the list of its items, counts as that list. A document lists the members of an
object by name, so alike values become the same document, and values that become the same document are alike
(`Value.toJson_eq_iff_alike`), provided that every dictionary has each of its keys once.
-/

namespace YieldPool.Value

mutual

/-- The same value, up to the order in which dictionaries list their entries; a tuple is the same as a list. -/
inductive Alike : Value → Value → Prop
  | null : Alike .null .null
  | bool (b : Bool) : Alike (.bool b) (.bool b)
  | int (n : Int) : Alike (.int n) (.int n)
  | float (x : Binary64) : Alike (.float x) (.float x)
  | text (t : Text) : Alike (.text t) (.text t)
  | bytes (bs : List UInt8) : Alike (.bytes bs) (.bytes bs)
  | status (s : PoolStatus) : Alike (.status s) (.status s)
  | array {v w : Value} {items others : List Value} :
      v.array? = some items → w.array? = some others → ItemsAlike items others → Alike v w
  | queue {items others : List Value} : ItemsAlike items others → Alike (.queue items) (.queue others)
  | dictionary {entries arranged others : Entries} :
      EntriesAlike entries arranged → arranged.Perm others → Alike (.dictionary entries) (.dictionary others)
  | view {entries arranged others : Entries} :
      EntriesAlike entries arranged → arranged.Perm others → Alike (.view entries) (.view others)

/-- Alike items in the same order. -/
inductive ItemsAlike : List Value → List Value → Prop
  | nil : ItemsAlike [] []
  | cons {x y : Value} {rest others : List Value} :
      Alike x y → ItemsAlike rest others → ItemsAlike (x :: rest) (y :: others)

/-- The same keys with alike values, in the same order. -/
inductive EntriesAlike : Entries → Entries → Prop
  | nil : EntriesAlike [] []
  | cons {key v w : Value} {rest others : Entries} :
      Alike v w → EntriesAlike rest others → EntriesAlike ((key, v) :: rest) ((key, w) :: others)

end

mutual

/-- Every dictionary in a value has each of its keys once. -/
def KeysDistinct : Value → Prop
  | .list items | .tuple items | .queue items => ItemsKeysDistinct items
  | .dictionary entries | .view entries => (entries.map Prod.fst).Nodup ∧ EntriesKeysDistinct entries
  | _ => True
termination_by structural v => v

/-- Every dictionary in one of the items has each of its keys once. -/
def ItemsKeysDistinct : List Value → Prop
  | [] => True
  | x :: rest => KeysDistinct x ∧ ItemsKeysDistinct rest
termination_by structural items => items

/-- Every dictionary in the value of an entry has each of its keys once. -/
def EntriesKeysDistinct : List (Value × Value) → Prop
  | [] => True
  | (_, v) :: rest => KeysDistinct v ∧ EntriesKeysDistinct rest
termination_by structural entries => entries

end

/-! ## Documents of rows -/

/-- The keys of entries are the names of the members that they become. -/
theorem keys_eq_of_becomes {entries : Entries} {members : List (Text × Json)}
    (become : List.Forall₂ Becomes entries members) : entries.map Prod.fst = members.map fun m => .text m.1 := by
  induction become with
  | nil => rfl
  | cons first _ ih => rw [List.map_cons, List.map_cons, first.1, ih]

/-- Entries with different keys become members with different names. -/
theorem nodup_of_becomes {entries : Entries} {members : List (Text × Json)}
    (become : List.Forall₂ Becomes entries members) (distinct : (entries.map Prod.fst).Nodup) :
    (members.map Prod.fst).Nodup := by
  rw [keys_eq_of_becomes become, show (fun m : Text × Json => Value.text m.1) = Value.text ∘ Prod.fst from rfl,
    ← List.map_map] at distinct
  exact List.Nodup.of_map _ distinct

/-! ## Values that become the same document -/

/-- The kind of value that a document of a value of some kind is read as. -/
def writtenKind : Kind → Kind
  | .tuple => .list
  | kind => kind

/-- A value becomes a document of its own kind, a tuple one of a list. -/
theorem kind_of_toJson {v : Value} {j : Json} (written : v.toJson = .ok j) : j.toValue.kind = writtenKind v.kind := by
  cases v with
  | float | bytes | status | queue | view => cases written
  | list | tuple =>
    obtain ⟨documents, -, rfl⟩ := (toJson_array_eq_ok_iff rfl).mp written
    rfl
  | dictionary =>
    obtain ⟨members, -, rfl⟩ := toJson_dictionary_eq_ok_iff.mp written
    rfl
  | _ =>
    cases written
    rfl

mutual

/-- Values that become the same document are alike. Dictionaries that become the same object have the same members in
the order of their names, so the entries of one can be arranged like those of the other. -/
theorem alike_of_toJson : ∀ (v w : Value) {j : Json}, v.toJson = .ok j → w.toJson = .ok j → v.Alike w
  | .null, w, j, hv, hw => by
    have same := (kind_of_toJson hv).symm.trans (kind_of_toJson hw)
    cases w with
    | null => exact Alike.null
    | _ => cases same
  | .bool b, w, j, hv, hw => by
    have same := (kind_of_toJson hv).symm.trans (kind_of_toJson hw)
    cases w with
    | bool c =>
      cases hv
      cases hw
      exact Alike.bool b
    | _ => cases same
  | .int n, w, j, hv, hw => by
    have same := (kind_of_toJson hv).symm.trans (kind_of_toJson hw)
    cases w with
    | int m =>
      cases hv
      cases hw
      exact Alike.int n
    | _ => cases same
  | .float x, w, j, hv, hw => by cases hv
  | .text t, w, j, hv, hw => by
    have same := (kind_of_toJson hv).symm.trans (kind_of_toJson hw)
    cases w with
    | text u =>
      cases hv
      cases hw
      exact Alike.text t
    | _ => cases same
  | .bytes _, w, j, hv, hw | .status _, w, j, hv, hw | .queue _, w, j, hv, hw | .view _, w, j, hv, hw => by cases hv
  | .list items, w, j, hv, hw | .tuple items, w, j, hv, hw => by
    have same := (kind_of_toJson hv).symm.trans (kind_of_toJson hw)
    cases w with
    | list others | tuple others =>
      obtain ⟨documents, written, rfl⟩ := (toJson_array_eq_ok_iff rfl).mp hv
      obtain ⟨_, written', document⟩ := (toJson_array_eq_ok_iff rfl).mp hw
      cases document
      exact Alike.array rfl rfl (itemsAlike_of_itemsToJson items others written written')
    | _ => cases same
  | .dictionary entries, w, j, hv, hw => by
    have same := (kind_of_toJson hv).symm.trans (kind_of_toJson hw)
    cases w with
    | dictionary others =>
      obtain ⟨members, written, rfl⟩ := toJson_dictionary_eq_ok_iff.mp hv
      obtain ⟨listed, written', document⟩ := toJson_dictionary_eq_ok_iff.mp hw
      have names : listed.Perm members := by
        have sorted := Json.object.inj document
        exact (KeyOrder.sortBy_perm Prod.fst listed).symm.trans
          (sorted ▸ KeyOrder.sortBy_perm Prod.fst members)
      obtain ⟨arranged, become, arrangement⟩ := List.perm_comp_forall₂ names.symm written'.flip
      exact Alike.dictionary (entriesAlike_of_becomes entries arranged written become.flip) arrangement
    | _ => cases same
termination_by structural v => v

/-- Items that become the same documents are alike one by one. -/
theorem itemsAlike_of_itemsToJson : ∀ (items others : List Value) {documents : List Json},
    itemsToJson items = .ok documents → itemsToJson others = .ok documents → ItemsAlike items others
  | [], others, documents, hv, hw => by
    cases hv
    cases others with
    | nil => exact ItemsAlike.nil
    | cons y others =>
      obtain ⟨_, -, _, -, none⟩ := itemsToJson_cons_eq_ok_iff.mp hw
      cases none
  | x :: rest, others, documents, hv, hw => by
    obtain ⟨j, first, documents, following, rfl⟩ := itemsToJson_cons_eq_ok_iff.mp hv
    cases others with
    | nil => cases hw
    | cons y others =>
      obtain ⟨_, first', _, following', same⟩ := itemsToJson_cons_eq_ok_iff.mp hw
      cases same
      exact ItemsAlike.cons (alike_of_toJson x y first first')
        (itemsAlike_of_itemsToJson rest others following following')
termination_by structural items => items

/-- Entries that become the same members have the same keys and alike values. -/
theorem entriesAlike_of_becomes : ∀ (entries others : List (Value × Value)) {members : List (Text × Json)},
    List.Forall₂ Becomes entries members → List.Forall₂ Becomes others members → EntriesAlike entries others
  | [], others, members, hv, hw => by
    cases hv
    cases hw
    exact EntriesAlike.nil
  | (key, v) :: rest, others, members, hv, hw => by
    cases hv with
    | cons first following =>
      cases hw with
      | @cons other _ others _ first' following' =>
        obtain ⟨key', w⟩ := other
        obtain rfl : key = key' := first.1.trans first'.1.symm
        exact EntriesAlike.cons (alike_of_toJson v w first.2 first'.2)
          (entriesAlike_of_becomes rest others following following')
termination_by structural entries => entries

end

mutual

/-- Alike values become the same document. -/
theorem toJson_of_alike : ∀ (v w : Value) {j : Json}, v.KeysDistinct → v.Alike w → v.toJson = .ok j → w.toJson = .ok j
  | .null, w, j, _, alike, written => by
    cases alike with
    | null => exact written
    | array listed => cases listed
  | .bool b, w, j, _, alike, written => by
    cases alike with
    | bool => exact written
    | array listed => cases listed
  | .int n, w, j, _, alike, written => by
    cases alike with
    | int => exact written
    | array listed => cases listed
  | .float x, w, j, _, _, written => by cases written
  | .text t, w, j, _, alike, written => by
    cases alike with
    | text => exact written
    | array listed => cases listed
  | .bytes _, w, j, _, _, written | .status _, w, j, _, _, written | .queue _, w, j, _, _, written
  | .view _, w, j, _, _, written => by cases written
  | .list items, w, j, distinct, alike, written | .tuple items, w, j, distinct, alike, written => by
    cases alike with
    | @array _ _ _ others here there alike =>
      cases here
      obtain ⟨documents, rows, rfl⟩ := (toJson_array_eq_ok_iff rfl).mp written
      exact (toJson_array_eq_ok_iff there).mpr ⟨documents, itemsToJson_of_alike items others distinct alike rows, rfl⟩
  | .dictionary entries, w, j, distinct, alike, written => by
    cases alike with
    | @dictionary _ arranged others alike arrangement =>
      obtain ⟨members, become, rfl⟩ := toJson_dictionary_eq_ok_iff.mp written
      have arrangedBecome := becomes_of_alike entries arranged distinct.2 alike become
      obtain ⟨listed, othersBecome, names⟩ := List.perm_comp_forall₂ arrangement.symm arrangedBecome
      refine toJson_dictionary_eq_ok_iff.mpr ⟨listed, othersBecome, ?_⟩
      exact congrArg Json.object (KeyOrder.sortBy_of_perm names.symm (nodup_of_becomes become distinct.1)).symm
    | array listed => cases listed
termination_by structural v => v

/-- Alike items become the same documents. -/
theorem itemsToJson_of_alike : ∀ (items others : List Value) {documents : List Json}, ItemsKeysDistinct items →
    ItemsAlike items others → itemsToJson items = .ok documents → itemsToJson others = .ok documents
  | [], others, documents, _, alike, written => by
    cases alike
    exact written
  | x :: rest, others, documents, distinct, alike, written => by
    cases alike with
    | @cons _ y _ others first following =>
      obtain ⟨j, document, documents, documents', rfl⟩ := itemsToJson_cons_eq_ok_iff.mp written
      exact itemsToJson_cons_eq_ok_iff.mpr ⟨j, toJson_of_alike x y distinct.1 first document, documents,
        itemsToJson_of_alike rest others distinct.2 following documents', rfl⟩
termination_by structural items => items

/-- Entries with the same keys and alike values become the same members. -/
theorem becomes_of_alike : ∀ (entries others : List (Value × Value)) {members : List (Text × Json)},
    EntriesKeysDistinct entries → EntriesAlike entries others → List.Forall₂ Becomes entries members →
      List.Forall₂ Becomes others members
  | [], others, members, _, alike, become => by
    cases alike
    exact become
  | (key, v) :: rest, others, members, distinct, alike, become => by
    cases alike with
    | @cons _ _ w _ others first following =>
      cases become with
      | cons member members =>
        exact List.Forall₂.cons ⟨member.1, toJson_of_alike v w distinct.1 first member.2⟩
          (becomes_of_alike rest others distinct.2 following members)
termination_by structural entries => entries

end

/-- Two values become the same document exactly if they are alike. -/
theorem toJson_eq_iff_alike {v w : Value} (distinct : v.KeysDistinct) {j k : Json} (hv : v.toJson = .ok j)
    (hw : w.toJson = .ok k) : j = k ↔ v.Alike w := by
  constructor
  · rintro rfl
    exact alike_of_toJson v w hv hw
  · intro alike
    exact Except.ok.inj ((toJson_of_alike v w distinct alike hv).symm.trans hw)

end YieldPool.Value
