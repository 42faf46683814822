import YieldPool.Proofs.Json.Alike

/-!
# Values that have a canonical form

A value is plain if it is made of null, truth values, integers, texts without surrogates, lists, tuples, and
dictionaries with such texts as keys, at any depth (`Value.Plain`). Whether a value has a canonical form is found out in
two passes: one looks for what is refused, and the other writes the document and refuses values of a kind that no
document has. Together they accept the plain values and no other (`Value.canonicalBytes_iff_plain`).
-/

namespace YieldPool.Value

/-- Made of null, truth values, integers, well-formed texts, lists, tuples, and dictionaries whose keys are such texts. -/
inductive Plain : Value → Prop
  | null : Plain .null
  | bool (b : Bool) : Plain (.bool b)
  | int (n : Int) : Plain (.int n)
  | text {t : Text} : t.isWellFormed = true → Plain (.text t)
  | list {items : List Value} : (∀ x ∈ items, Plain x) → Plain (.list items)
  | tuple {items : List Value} : (∀ x ∈ items, Plain x) → Plain (.tuple items)
  | dictionary {entries : Entries} : (∀ entry ∈ entries, ∃ t : Text, entry.1 = .text t ∧ t.isWellFormed = true) →
      (∀ entry ∈ entries, Plain entry.2) → Plain (.dictionary entries)

/-- A text is plain exactly if it is well-formed. -/
theorem plain_text_iff {t : Text} : (text t).Plain ↔ t.isWellFormed = true := by
  constructor
  · intro plain
    cases plain with
    | text wellFormed => exact wellFormed
  · exact Plain.text

/-- A list or a tuple is plain exactly if its items are. -/
theorem plain_array_iff {v : Value} {items : List Value} (listed : v.array? = some items) :
    v.Plain ↔ ∀ x ∈ items, x.Plain := by
  constructor
  · intro plain
    cases plain with
    | list each | tuple each =>
      cases listed
      exact each
    | _ => cases listed
  · intro each
    cases v with
    | list =>
      cases listed
      exact Plain.list each
    | tuple =>
      cases listed
      exact Plain.tuple each
    | _ => cases listed

/-- A dictionary is plain exactly if its keys are well-formed texts and its values are plain. -/
theorem plain_dictionary_iff {entries : Entries} :
    (dictionary entries).Plain ↔
      ∀ entry ∈ entries, (∃ t : Text, entry.1 = .text t ∧ t.isWellFormed = true) ∧ entry.2.Plain := by
  constructor
  · intro plain entry member
    cases plain with
    | dictionary keys values => exact ⟨keys entry member, values entry member⟩
  · intro each
    exact Plain.dictionary (fun entry member => (each entry member).1) fun entry member => (each entry member).2

/-! ## The two passes -/

/-- Neither pass refuses the value. -/
def Passes (v : Value) : Prop := v.refusal? = none ∧ ∃ document, v.toJson = .ok document

/-- Neither pass refuses an item. -/
def ItemsPass (items : List Value) : Prop :=
  itemsRefusal? items = none ∧ ∃ documents, itemsToJson items = .ok documents

/-- Neither pass refuses an entry. -/
def EntriesPass (entries : Entries) : Prop :=
  entriesRefusal? entries = none ∧ ∃ members, List.Forall₂ Becomes entries members

/-- A list or a tuple passes exactly if its items do. -/
theorem passes_array_iff {v : Value} {items : List Value} (listed : v.array? = some items) :
    v.Passes ↔ ItemsPass items := by
  have refusals : v.refusal? = itemsRefusal? items := by
    cases v with
    | list | tuple =>
      cases listed
      rfl
    | _ => cases listed
  simp only [Passes, ItemsPass, refusals, toJson_array_eq_ok_iff listed]
  refine and_congr_right fun _ => ?_
  constructor
  · rintro ⟨_, documents, written, -⟩
    exact ⟨documents, written⟩
  · rintro ⟨documents, written⟩
    exact ⟨_, documents, written, rfl⟩

/-- A dictionary passes exactly if its entries do. -/
theorem passes_dictionary_iff {entries : Entries} : (dictionary entries).Passes ↔ EntriesPass entries := by
  simp only [Passes, EntriesPass, refusal?, toJson_dictionary_eq_ok_iff]
  refine and_congr_right fun _ => ?_
  constructor
  · rintro ⟨_, members, written, -⟩
    exact ⟨members, written⟩
  · rintro ⟨members, written⟩
    exact ⟨_, members, written, rfl⟩

/-- Items pass exactly if the first and the others do. -/
theorem itemsPass_cons_iff {x : Value} {rest : List Value} : ItemsPass (x :: rest) ↔ x.Passes ∧ ItemsPass rest := by
  simp only [ItemsPass, Passes, itemsRefusal?, itemsToJson_cons_eq_ok_iff, Option.orElse_eq_orElse,
    Option.orElse_eq_or, Option.or_eq_none_iff]
  constructor
  · rintro ⟨⟨accepted, others⟩, _, document, written, documents, following, -⟩
    exact ⟨⟨accepted, document, written⟩, others, documents, following⟩
  · rintro ⟨⟨accepted, document, written⟩, others, documents, following⟩
    exact ⟨⟨accepted, others⟩, _, document, written, documents, following, rfl⟩

/-- Entries pass exactly if the first has a well-formed text as its key and passes, and the others do. -/
theorem entriesPass_cons_iff {entry : Value × Value} {rest : Entries} :
    EntriesPass (entry :: rest) ↔
      ((∃ t : Text, entry.1 = .text t ∧ t.isWellFormed = true) ∧ entry.2.Passes) ∧ EntriesPass rest := by
  obtain ⟨key, v⟩ := entry
  cases key with
  | text name =>
    simp only [EntriesPass, Passes, entriesRefusal?, List.forall₂_cons_left_iff, Option.orElse_eq_orElse,
      Option.orElse_eq_or, Option.or_eq_none_iff, text.injEq, exists_eq_left']
    cases name.isWellFormed with
    | true =>
      constructor
      · rintro ⟨⟨-, accepted, others⟩, _, member, members, written, following, -⟩
        exact ⟨⟨rfl, accepted, member.2, written.2⟩, others, members, following⟩
      · rintro ⟨⟨-, accepted, document, written⟩, others, members, following⟩
        exact ⟨⟨rfl, accepted, others⟩, _, (name, document), members, ⟨rfl, written⟩, following, rfl⟩
    | false => simp
  | _ => simp [EntriesPass, entriesRefusal?]

mutual

/-- Exactly the plain values pass. -/
theorem plain_iff_passes : ∀ v : Value, v.Plain ↔ v.Passes
  | .null => ⟨fun _ => ⟨rfl, _, rfl⟩, fun _ => Plain.null⟩
  | .bool b => ⟨fun _ => ⟨rfl, _, rfl⟩, fun _ => Plain.bool b⟩
  | .int n => ⟨fun _ => ⟨rfl, _, rfl⟩, fun _ => Plain.int n⟩
  | .float _ => ⟨nofun, fun passes => by cases passes.1⟩
  | .text t => by
    rw [plain_text_iff, Passes, refusal?, toJson]
    cases t.isWellFormed <;> simp
  | .bytes _ | .status _ | .queue _ | .view _ => by
    refine ⟨nofun, ?_⟩
    rintro ⟨-, document, written⟩
    cases written
  | .list items | .tuple items => by rw [plain_array_iff rfl, passes_array_iff rfl, forall_plain_iff items]
  | .dictionary entries => by rw [plain_dictionary_iff, passes_dictionary_iff, forall_entries_plain_iff entries]
termination_by structural v => v

/-- Exactly lists of plain values pass. -/
theorem forall_plain_iff : ∀ items : List Value, (∀ x ∈ items, x.Plain) ↔ ItemsPass items
  | [] => ⟨fun _ => ⟨rfl, _, rfl⟩, fun _ => nofun⟩
  | x :: rest => by rw [List.forall_mem_cons, itemsPass_cons_iff, plain_iff_passes x, forall_plain_iff rest]
termination_by structural items => items

/-- Exactly entries with well-formed texts as keys and plain values pass. -/
theorem forall_entries_plain_iff : ∀ entries : List (Value × Value),
    (∀ entry ∈ entries, (∃ t : Text, entry.1 = .text t ∧ t.isWellFormed = true) ∧ entry.2.Plain) ↔ EntriesPass entries
  | [] => ⟨fun _ => ⟨rfl, [], .nil⟩, fun _ => nofun⟩
  | (key, v) :: rest => by
    rw [List.forall_mem_cons, entriesPass_cons_iff, plain_iff_passes v, forall_entries_plain_iff rest]
termination_by structural entries => entries

end

end YieldPool.Value
