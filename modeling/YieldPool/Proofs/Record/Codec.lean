import YieldPool.Proofs.Record
import YieldPool.Record.Codec

/-!
# Documents of records read back

An object becomes a dictionary in which each of its members is found by name, and no other entry is (`Json.Lists`). So
the fields of a record are found where the record is read from its document, and reading yields the record
(`PoolRecord.ofValue_toJson`, `ParticipantRecord.ofValue_toJson`).
-/

namespace YieldPool

/-- A name is found in the first entry that has it. -/
theorem Value.Entries.get?_cons_text (t name : Text) (v : Value) (rest : Entries) :
    get? ((.text t, v) :: rest) name = if t = name then some v else get? rest name := by
  by_cases same : t = name <;> simp [get?, same]

namespace Json

/-- The values of documents are made one by one. -/
theorem itemsToValues_eq_map (items : List Json) : itemsToValues items = items.map toValue := by
  induction items with
  | nil => rfl
  | cons x rest ih => rw [itemsToValues, ih, List.map_cons]

/-- The entries of a dictionary are members of an object, in some order. -/
structure Lists (members : List (Text × Json)) (entries : Value.Entries) : Prop where
  get? : ∀ m ∈ members, entries.get? m.1 = some m.2.toValue
  keys : ∀ key ∈ entries.keys, ∃ name ∈ members.map Prod.fst, .text name = key

/-- Members with different names are found in their entries, and nothing else. -/
theorem lists_membersToEntries {members : List (Text × Json)} (distinct : (members.map Prod.fst).Nodup) :
    Lists members (membersToEntries members) := by
  induction members with
  | nil => exact ⟨nofun, nofun⟩
  | cons m rest ih =>
    obtain ⟨fresh, distinct⟩ := List.nodup_cons.mp distinct
    obtain ⟨found, named⟩ := ih distinct
    constructor
    · refine List.forall_mem_cons.mpr ⟨by simp [membersToEntries, Value.Entries.get?], fun n member => ?_⟩
      have ne : m.1 ≠ n.1 := fun same => fresh (same ▸ List.mem_map_of_mem member)
      simpa [membersToEntries, Value.Entries.get?, ne] using found n member
    · refine List.forall_mem_cons.mpr ⟨⟨m.1, List.mem_cons_self, rfl⟩, fun key member => ?_⟩
      obtain ⟨name, listed, same⟩ := named key member
      exact ⟨name, List.mem_cons_of_mem _ listed, same⟩

/-- What holds of every dictionary of an object's members holds of the object, if their names are distinct. -/
theorem of_record {P : Value → Prop} {members : List (Text × Json)} (distinct : (members.map Prod.fst).Nodup)
    (h : ∀ entries, Lists members entries → P (.dictionary entries)) : P (record members).toValue := by
  have sorted := KeyOrder.sortBy_perm Prod.fst members
  obtain ⟨found, named⟩ := lists_membersToEntries ((sorted.map Prod.fst).nodup_iff.mpr distinct)
  refine h _ ⟨fun m member => found m (sorted.mem_iff.mpr member), fun key member => ?_⟩
  obtain ⟨name, listed, same⟩ := named key member
  exact ⟨name, (sorted.map Prod.fst).mem_iff.mp listed, same⟩

/-- What members list under a name is there. -/
theorem Lists.getD {members : List (Text × Json)} {entries : Value.Entries} (h : Lists members entries) :
    ∀ m ∈ members, entries.getD m.1 = m.2.toValue := by
  intro m member
  rw [Value.Entries.getD, h.get? m member]
  rfl

/-- What members list under a name is an entry of the dictionary. -/
theorem Lists.entry {members : List (Text × Json)} {entries : Value.Entries} (h : Lists members entries) :
    ∀ m ∈ members, (Value.dictionary entries).entry m.1 = .ok m.2.toValue := by
  intro m member
  simp only [Value.entry, bind_eq_ok_iff, orRefuse_eq_ok_iff]
  exact ⟨entries, rfl, h.get? m member⟩

end Json

/-- Nothing unknown is let through. -/
theorem requireNone_eq_ok_iff {unknown : List Value} {refusal : List Value → Error} {u : Unit} :
    requireNone unknown refusal = .ok u ↔ unknown = [] := by
  unfold requireNone
  cases unknown with
  | nil => simp
  | cons v rest =>
    simp only [List.isEmpty_cons, Bool.false_eq_true, if_false, reduceCtorEq, iff_false]
    split <;> simp

/-- No name is missing exactly if each has a value. -/
theorem missingNames_eq_nil_iff {expected : List Text} {entries : Value.Entries} :
    missingNames expected entries = [] ↔ ∀ name ∈ expected, ∃ v, entries.get? name = some v := by
  simp only [missingNames, List.filter_eq_nil_iff, Option.isNone_iff_eq_none, ← ne_eq, Option.ne_none_iff_exists']

/-- No key is unknown exactly if each is one of the names. -/
theorem unknownKeys_eq_nil_iff {expected : List Text} {entries : Value.Entries} :
    unknownKeys expected entries = [] ↔ ∀ key ∈ entries.keys, ∃ name ∈ expected, key.sameKey (.text name) = true := by
  simp only [unknownKeys, List.filter_eq_nil_iff, Bool.not_eq_true', Bool.not_eq_false, List.any_eq_true]

/-- The entries of a value are those of a mapping. -/
theorem Value.entries_eq_ok_iff {v : Value} {entries : Value.Entries} :
    v.entries = .ok entries ↔ v.mapping? = some entries :=
  orRefuse_eq_ok_iff

/-- A field of a value is that of a mapping, or what stands in its stead. -/
theorem Value.fieldOr_eq_ok_iff {v : Value} {name : Text} {absent field : Value} :
    v.fieldOr name absent = .ok field ↔
      ∃ entries, v.mapping? = some entries ∧ (Entries.get? entries name).getD absent = field := by
  simp only [fieldOr, bind_eq_ok_iff, entries_eq_ok_iff, pure, Except.pure, Except.ok.injEq]

/-- Of the integers only one counts as one. -/
theorem Value.isOne_int_iff {n : Int} : (Value.int n).isOne = true ↔ n = 1 := by
  simp [Value.isOne, Value.number?]

/-- A value is accepted as a record of a kind exactly if it is a mapping of the record's version, with all fields and
no other. -/
theorem RecordKind.checkedEntries_eq_ok_iff {kind : RecordKind} {fields : List Text} {v : Value}
    {entries : Value.Entries} :
    kind.checkedEntries fields v = .ok entries ↔
      v.mapping? = some entries ∧ (entries.getD "version").isOne = true ∧
        missingNames ("version" :: fields) entries = [] ∧ unknownKeys ("version" :: fields) entries = [] := by
  simp only [checkedEntries, bind_eq_ok_iff, require_eq_ok_iff, requireNone_eq_ok_iff, liftM, monadLift,
    MonadLift.monadLift, mapError_eq_ok_iff, Value.fieldOr_eq_ok_iff, Value.entries_eq_ok_iff, exists_const, pure,
    Except.pure, Except.ok.injEq]
  constructor
  · rintro ⟨version, ⟨_, mapping, rfl⟩, isOne, _, same, missing, unknown, rfl⟩
    obtain rfl := Option.some.inj (mapping.symm.trans same)
    exact ⟨mapping, isOne, missing, unknown⟩
  · rintro ⟨mapping, isOne, missing, unknown⟩
    exact ⟨_, ⟨entries, mapping, rfl⟩, isOne, entries, mapping, missing, unknown, rfl⟩

/-- The entries of a record's document are accepted as the record's. -/
theorem RecordKind.checkedEntries_of_lists {kind : RecordKind} {fields : List Text} {members : List (Text × Json)}
    {entries : Value.Entries} (listed : Json.Lists members entries)
    (names : members.map Prod.fst = fields ++ [Text.ofString "version"])
    (version : (Text.ofString "version", Json.int recordVersion) ∈ members) :
    kind.checkedEntries fields (.dictionary entries) = .ok entries := by
  have expected : ∀ name, name ∈ (("version" : Text) :: fields) ↔ name ∈ members.map Prod.fst := by
    intro name
    rw [names, List.mem_append, List.mem_singleton, List.mem_cons, or_comm]
  refine checkedEntries_eq_ok_iff.mpr ⟨rfl, ?_, missingNames_eq_nil_iff.mpr fun name wanted => ?_,
    unknownKeys_eq_nil_iff.mpr fun key member => ?_⟩
  · rw [listed.getD _ version]
    exact Value.isOne_int_iff.mpr rfl
  · obtain ⟨m, member, rfl⟩ := List.mem_map.mp ((expected name).mp wanted)
    exact ⟨_, listed.get? m member⟩
  · obtain ⟨name, named, rfl⟩ := listed.keys key member
    exact ⟨name, (expected name).mpr named, decide_eq_true rfl⟩

/-- The name of a status names it. -/
theorem PoolStatus.ofValue?_name (status : PoolStatus) : ofValue? (.text status.name) = some status := by
  cases status <;> decide

/-- A pool is read back from its document. -/
theorem PoolRecord.ofValue_toJson (p : PoolRecord) : ofValue p.toJson.toValue = .ok p := by
  have distinct : (fieldNames ++ [Text.ofString "version"]).Nodup := by decide
  refine Json.of_record (P := fun v => ofValue v = .ok p) distinct fun entries listed => ?_
  have checked : RecordKind.pool.checkedEntries fieldNames (.dictionary entries) = .ok entries :=
    RecordKind.checkedEntries_of_lists listed rfl (by simp)
  have fields := listed.getD
  simp only [List.forall_mem_cons] at fields
  obtain ⟨h₁, h₂, h₃, h₄, h₅, h₆, h₇, h₈, h₉, h₁₀, -⟩ := fields
  have status : PoolStatus.ofValue? (entries.getD "status") = some p.status := by
    rw [h₃]
    exact PoolStatus.ofValue?_name p.status
  simp only [ofValue, bind_eq_ok_iff, orRefuse_eq_ok_iff]
  exact ⟨entries, checked, p.status, status, read_eq_ok_iff.mpr ⟨h₁, h₂, rfl, h₄, h₅, h₆, h₇, h₈, h₉, h₁₀⟩⟩

/-- A participant is read back from its document. -/
theorem ParticipantRecord.ofValue_toJson (q : ParticipantRecord) : ofValue q.toJson.toValue = .ok q := by
  have distinct : (fieldNames ++ [Text.ofString "version"]).Nodup := by decide
  refine Json.of_record (P := fun v => ofValue v = .ok q) distinct fun entries listed => ?_
  have checked : RecordKind.participant.checkedEntries fieldNames (.dictionary entries) = .ok entries :=
    RecordKind.checkedEntries_of_lists listed rfl (by simp)
  have fields := listed.getD
  simp only [List.forall_mem_cons] at fields
  obtain ⟨h₁, h₂, h₃, h₄, -⟩ := fields
  simp only [ofValue, bind_eq_ok_iff]
  exact ⟨entries, checked, read_eq_ok_iff.mpr ⟨h₁, h₂, h₃, h₄⟩⟩

end YieldPool
