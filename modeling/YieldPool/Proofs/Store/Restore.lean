import YieldPool.Proofs.Ledger
import YieldPool.Proofs.Record.Codec
import YieldPool.Store.Snapshot

/-!
# What a snapshot restores

A snapshot lists pools, participants and balances. It restores a store exactly if each entry can be read, nothing is
listed twice, no amount is negative, and the store of what is listed is consistent (`restore_eq_ok_iff`). So a store
that is restored is consistent whatever the snapshot says (`consistent_of_restore`), and a consistent store is restored
from its snapshot and from any document that lists the same rows in another order (`restore_document`).
-/

namespace YieldPool

/-- A fold that takes up what it reads from each value, and refuses what has a key that is known already, succeeds
exactly if all values can be read and no key occurs twice. What is taken up first becomes known to the rest, so the rest
cannot have its key. -/
theorem foldlM_distinct_eq_ok_iff {ρ σ α κ : Type} {make : ρ → σ} {take : σ → Value → Except Error σ}
    {read : Value → Except Error α} {Fits : α → Prop} (key : α → κ) (known : ρ → κ → Prop) (put : ρ → α → ρ)
    (taking : ∀ r v s, take (make r) v = .ok s ↔
      ∃ a, read v = .ok a ∧ Fits a ∧ ¬known r (key a) ∧ make (put r a) = s)
    (known_put : ∀ r a k, known (put r a) k ↔ key a = k ∨ known r k) {values : List Value} {r : ρ} {s : σ} :
    values.foldlM take (make r) = .ok s ↔
      ∃ rows, List.Forall₂ (fun v a => read v = .ok a) values rows ∧ (∀ a ∈ rows, Fits a ∧ ¬known r (key a)) ∧
        (rows.map key).Nodup ∧ make (rows.foldl put r) = s := by
  induction values generalizing r with
  | nil =>
    constructor
    · intro folded
      exact ⟨[], .nil, nofun, List.nodup_nil, Except.ok.inj folded⟩
    · rintro ⟨rows, none, -, -, made⟩
      cases none
      exact congrArg Except.ok made
  | cons v rest ih =>
    rw [List.foldlM_cons, bind_eq_ok_iff]
    constructor
    · rintro ⟨next, first, folded⟩
      obtain ⟨a, found, fits, fresh, rfl⟩ := (taking r v next).mp first
      obtain ⟨rows, others, fitting, distinct, made⟩ := ih.mp folded
      have unknown : ∀ b ∈ rows, key a ≠ key b ∧ ¬known r (key b) := fun b member =>
        not_or.mp (mt (known_put r a (key b)).mpr (fitting b member).2)
      refine ⟨a :: rows, .cons found others, List.forall_mem_cons.mpr ⟨⟨fits, fresh⟩, fun b member => ?_⟩,
        List.nodup_cons.mpr ⟨fun again => ?_, distinct⟩, made⟩
      · exact ⟨(fitting b member).1, (unknown b member).2⟩
      · obtain ⟨b, member, same⟩ := List.mem_map.mp again
        exact (unknown b member).1 same.symm
    · rintro ⟨rows, all, fitting, distinct, made⟩
      cases all with
      | @cons _ a _ rows found others =>
        obtain ⟨⟨fits, fresh⟩, fitting⟩ := List.forall_mem_cons.mp fitting
        obtain ⟨other, distinct⟩ := List.nodup_cons.mp distinct
        refine ⟨_, (taking r v _).mpr ⟨a, found, fits, fresh, rfl⟩,
          ih.mpr ⟨rows, others, fun b member => ⟨(fitting b member).1, fun again => ?_⟩, distinct, made⟩⟩
        rcases (known_put r a (key b)).mp again with same | before
        · exact other (same ▸ List.mem_map_of_mem member)
        · exact (fitting b member).2 before

namespace Store

/-! ## The three lists -/

/-- The items that a snapshot lists under a name; there are none if it has no such list. -/
theorem listed_eq_ok_iff {v : Value} {name : Text} {xs : List Value} :
    listed v name = .ok xs ↔
      ∃ entries, v.mapping? = some entries ∧ ((Value.Entries.get? entries name).getD (.list [])).items = .ok xs := by
  simp only [listed, bind_eq_ok_iff, liftM, monadLift, MonadLift.monadLift, mapError_eq_ok_iff,
    Value.fieldOr_eq_ok_iff]
  constructor
  · rintro ⟨_, ⟨entries, mapping, rfl⟩, listed⟩
    exact ⟨entries, mapping, listed⟩
  · rintro ⟨entries, mapping, listed⟩
    exact ⟨_, ⟨entries, mapping, rfl⟩, listed⟩

/-- What a mapping has as a list under a name is listed there. -/
theorem listed_of_get? {v : Value} {entries : Value.Entries} (mapping : v.mapping? = some entries) {name : Text}
    {items : List Value} (found : entries.get? name = some (.list items)) : listed v name = .ok items := by
  refine listed_eq_ok_iff.mpr ⟨entries, mapping, ?_⟩
  rw [found]
  rfl

/-- Pools are taken up exactly if they can be read and no identifier occurs twice. -/
theorem restorePools_eq_ok_iff {values : List Value} {s : Store Ledger} :
    values.foldlM restorePool empty = .ok s ↔
      ∃ ps, List.Forall₂ (fun v p => PoolRecord.ofValue v = .ok p) values ps ∧ (ps.map PoolRecord.poolId).Nodup ∧
        ⟨Table.empty.insertAll ps, Table.empty, Ledger.empty⟩ = s := by
  have taking : ∀ (pools : Table PoolRecord.poolId) v s, restorePool ⟨pools, Table.empty, Ledger.empty⟩ v = .ok s ↔
      ∃ p, PoolRecord.ofValue v = .ok p ∧ True ∧ ¬pools.contains p.poolId = true ∧
        ⟨pools.insert p, Table.empty, Ledger.empty⟩ = s := by
    simp [restorePool, bind_eq_ok_iff, require_eq_ok_iff, pure, Except.pure, putPool]
  refine (foldlM_distinct_eq_ok_iff PoolRecord.poolId (fun pools k => pools.contains k = true) Table.insert taking
    fun _ _ _ => Table.contains_insert_eq_true_iff).trans ?_
  simp [Table.insertAll]

/-- Participants are taken up exactly if they can be read, belong to a pool that is there, and none occurs twice. -/
theorem restoreParticipants_eq_ok_iff {values : List Value} {pools : Table PoolRecord.poolId} {s : Store Ledger} :
    values.foldlM restoreParticipant ⟨pools, Table.empty, Ledger.empty⟩ = .ok s ↔
      ∃ qs, List.Forall₂ (fun v q => ParticipantRecord.ofValue v = .ok q) values qs ∧
        (∀ q ∈ qs, pools.contains q.poolId = true) ∧ (qs.map ParticipantRecord.key).Nodup ∧
          ⟨pools, Table.empty.insertAll qs, Ledger.empty⟩ = s := by
  have taking : ∀ (participants : Table ParticipantRecord.key) v s,
      restoreParticipant ⟨pools, participants, Ledger.empty⟩ v = .ok s ↔
        ∃ q, ParticipantRecord.ofValue v = .ok q ∧ pools.contains q.poolId = true ∧
          ¬participants.contains q.key = true ∧ ⟨pools, participants.insert q, Ledger.empty⟩ = s := by
    simp [restoreParticipant, bind_eq_ok_iff, require_eq_ok_iff, pure, Except.pure, putParticipant]
  refine (foldlM_distinct_eq_ok_iff ParticipantRecord.key (fun participants k => participants.contains k = true)
    Table.insert taking fun _ _ _ => Table.contains_insert_eq_true_iff).trans ?_
  simp [Table.insertAll]

/-- The credit that an entry of a snapshot describes. -/
def readCredit (v : Value) : Except Error Credit := do
  let account ← v.entry "account"
  let asset ← v.entry "asset"
  let amount ← v.entry "amount"
  let amount ← amount.toInt
  return ⟨account.display, asset.display, amount⟩

/-- A balance is taken up exactly if it can be read, is not negative and was not seen before. -/
theorem restoreBalance_eq_ok_iff {s : Store Ledger} {seen : List (Text × Text)} {v : Value}
    {x : Store Ledger × List (Text × Text)} :
    restoreBalance (s, seen) v = .ok x ↔
      ∃ c, readCredit v = .ok c ∧ 0 ≤ c.amount ∧ c.key ∉ seen ∧
        ({ s with ledger := s.ledger.afterCredit c }, c.key :: seen) = x := by
  simp only [restoreBalance, readCredit, credit, bind_eq_ok_iff, require_eq_ok_iff, exists_const, liftM, monadLift,
    MonadLift.monadLift, mapError_eq_ok_iff, Ledger.credit_eq_ok_iff, pure, Except.pure, Except.ok.injEq]
  constructor
  · rintro ⟨account, h₁, asset, h₂, fresh, entry, h₃, amount, h₄, _, ⟨_, ⟨nonneg, rfl⟩, rfl⟩, rfl⟩
    exact ⟨_, ⟨account, h₁, asset, h₂, entry, h₃, amount, h₄, rfl⟩, nonneg, fresh, rfl⟩
  · rintro ⟨_, ⟨account, h₁, asset, h₂, entry, h₃, amount, h₄, rfl⟩, nonneg, fresh, rfl⟩
    exact ⟨account, h₁, asset, h₂, fresh, entry, h₃, amount, h₄, _, ⟨_, ⟨nonneg, rfl⟩, rfl⟩, rfl⟩

/-- The ledger after a credit, and the accounts and assets that were credited so far. -/
def creditSeen (r : Ledger × List (Text × Text)) (c : Credit) : Ledger × List (Text × Text) :=
  (r.1.afterCredit c, c.key :: r.2)

/-- Balances are taken up exactly if they can be read, none is negative and none occurs twice. -/
theorem restoreBalances_eq_ok_iff {values : List Value} {s t : Store Ledger} :
    (∃ seen, values.foldlM restoreBalance (s, []) = .ok (t, seen)) ↔
      ∃ cs, List.Forall₂ (fun v c => readCredit v = .ok c) values cs ∧ (∀ c ∈ cs, 0 ≤ c.amount) ∧
        (cs.map Credit.key).Nodup ∧ { s with ledger := cs.foldl Ledger.afterCredit s.ledger } = t := by
  have taking : ∀ (r : Ledger × List (Text × Text)) v x, restoreBalance ({ s with ledger := r.1 }, r.2) v = .ok x ↔
      ∃ c, readCredit v = .ok c ∧ 0 ≤ c.amount ∧ c.key ∉ r.2 ∧
        ({ s with ledger := (creditSeen r c).1 }, (creditSeen r c).2) = x :=
    fun r v x => restoreBalance_eq_ok_iff
  have ledger : ∀ cs : List Credit,
      (cs.foldl creditSeen (s.ledger, [])).1 = cs.foldl Ledger.afterCredit s.ledger := fun cs =>
    (List.foldl_hom Prod.fst fun _ _ => rfl).symm
  refine (exists_congr fun seen => foldlM_distinct_eq_ok_iff Credit.key (fun r k => k ∈ r.2) creditSeen taking
    (fun r c k => by simp [creditSeen, eq_comm]) (r := (s.ledger, []))).trans ?_
  simp only [ledger, Prod.mk.injEq, List.not_mem_nil, not_false_eq_true, and_true]
  constructor
  · rintro ⟨_, cs, read, nonneg, distinct, made, -⟩
    exact ⟨cs, read, nonneg, distinct, made⟩
  · rintro ⟨cs, read, nonneg, distinct, made⟩
    exact ⟨_, cs, read, nonneg, distinct, made, rfl⟩

/-! ## The whole snapshot -/

/-- The pools of a store pass their check exactly if none violates anything. -/
theorem checkPools_eq_ok_iff {s : Store Ledger} {u : Unit} :
    s.checkPools = .ok u ↔ ∀ p ∈ s.pools.rows, (s.books p).violations = [] := by
  simp only [checkPools, forM_eq_ok_iff, require_eq_ok_iff]

/-- A snapshot of the right version lists these pools, participants and credits. -/
structure Describes (v : Value) (ps : List PoolRecord) (qs : List ParticipantRecord) (cs : List Credit) : Prop where
  version : ∃ version, v.fieldOr "version" .null = .ok version ∧ version.isOne = true
  pools : ∃ values, listed v "pools" = .ok values ∧ List.Forall₂ (fun v p => PoolRecord.ofValue v = .ok p) values ps
  participants : ∃ values, listed v "participants" = .ok values ∧
    List.Forall₂ (fun v q => ParticipantRecord.ofValue v = .ok q) values qs
  credits : ∃ values, listed v "balances" = .ok values ∧ List.Forall₂ (fun v c => readCredit v = .ok c) values cs

/-- Nothing is listed twice, and no amount is negative. -/
structure Unambiguous (ps : List PoolRecord) (qs : List ParticipantRecord) (cs : List Credit) : Prop where
  pools : (ps.map PoolRecord.poolId).Nodup
  participants : (qs.map ParticipantRecord.key).Nodup
  credits : (cs.map Credit.key).Nodup
  nonneg : ∀ c ∈ cs, 0 ≤ c.amount

/-- The store of what is listed. -/
def ofLists (ps : List PoolRecord) (qs : List ParticipantRecord) (cs : List Credit) : Store Ledger :=
  ⟨Table.empty.insertAll ps, Table.empty.insertAll qs, cs.foldl Ledger.afterCredit Ledger.empty⟩

/-- A snapshot restores a store exactly if it lists nothing twice and no negative amount, and the store is that of what
it lists and consistent. The ledger is filled last, when the two tables of records stand already. -/
theorem restore_eq_ok_iff {v : Value} {s : Store Ledger} :
    restore v = .ok s ↔
      ∃ ps qs cs, Describes v ps qs cs ∧ Unambiguous ps qs cs ∧ ofLists ps qs cs = s ∧ s.Consistent := by
  constructor
  · intro restored
    simp only [restore, bind_eq_ok_iff, require_eq_ok_iff, exists_const, liftM, monadLift, MonadLift.monadLift,
      mapError_eq_ok_iff, Prod.exists] at restored
    obtain ⟨version, found, isOne, pools, listed₁, s₁, folded₁, participants, listed₂, s₂, folded₂, balances, listed₃,
      s₃, seen, folded₃, _, checked, made⟩ := restored
    obtain ⟨ps, read₁, distinct₁, rfl⟩ := restorePools_eq_ok_iff.mp folded₁
    obtain ⟨qs, read₂, owned, distinct₂, rfl⟩ := restoreParticipants_eq_ok_iff.mp folded₂
    obtain ⟨cs, read₃, nonneg, distinct₃, rfl⟩ := restoreBalances_eq_ok_iff.mp ⟨seen, folded₃⟩
    cases made
    have consistent : (ofLists ps qs cs).Consistent :=
      ⟨checkPools_eq_ok_iff.mp checked, fun q member => owned q ((Table.mem_insertAll_rows distinct₂).mp member)⟩
    exact ⟨ps, qs, cs, ⟨⟨version, found, isOne⟩, ⟨pools, listed₁, read₁⟩, ⟨participants, listed₂, read₂⟩,
      ⟨balances, listed₃, read₃⟩⟩, ⟨distinct₁, distinct₂, distinct₃, nonneg⟩, rfl, consistent⟩
  · rintro ⟨ps, qs, cs, described, unambiguous, rfl, consistent⟩
    obtain ⟨⟨version, found, isOne⟩, ⟨pools, listed₁, read₁⟩, ⟨participants, listed₂, read₂⟩,
      ⟨balances, listed₃, read₃⟩⟩ := described
    have folded₁ := restorePools_eq_ok_iff.mpr ⟨ps, read₁, unambiguous.pools, rfl⟩
    have owned : ∀ q ∈ qs, (Table.empty.insertAll ps : Table PoolRecord.poolId).contains q.poolId = true :=
      fun q member => consistent.2 q ((Table.mem_insertAll_rows unambiguous.participants).mpr member)
    have folded₂ := restoreParticipants_eq_ok_iff.mpr ⟨qs, read₂, owned, unambiguous.participants, rfl⟩
    obtain ⟨seen, folded₃⟩ := (restoreBalances_eq_ok_iff
      (s := ⟨Table.empty.insertAll ps, Table.empty.insertAll qs, Ledger.empty⟩)).mpr
        ⟨cs, read₃, unambiguous.nonneg, unambiguous.credits, rfl⟩
    have checked := (checkPools_eq_ok_iff (u := ())).mpr consistent.1
    simp only [restore, bind_eq_ok_iff, require_eq_ok_iff, exists_const, liftM, monadLift, MonadLift.monadLift,
      mapError_eq_ok_iff, Prod.exists]
    exact ⟨version, found, isOne, pools, listed₁, _, folded₁, participants, listed₂, _, folded₂, balances, listed₃, _,
      seen, folded₃, (), checked, rfl⟩

/-- A restored store is consistent. -/
theorem consistent_of_restore {v : Value} {s : Store Ledger} (h : restore v = .ok s) : s.Consistent := by
  obtain ⟨ps, qs, cs, -, -, -, consistent⟩ := restore_eq_ok_iff.mp h
  exact consistent

/-- The document that lists pools, participants and balances. -/
def document (ps : List PoolRecord) (qs : List ParticipantRecord) (bs : List Balance) : Json := .record [
  ("version", .int snapshotVersion),
  ("pools", .array (ps.map PoolRecord.toJson)),
  ("participants", .array (qs.map ParticipantRecord.toJson)),
  ("balances", .array (bs.map balanceJson))]

/-- A snapshot is the document of the rows of the tables, in their order. -/
theorem snapshot_eq_document (s : Store Ledger) :
    s.snapshot = document s.pools.rows s.participants.rows s.ledger.balances.rows := rfl

/-- The document of a balance is read as the credit that makes it. -/
theorem readCredit_balanceJson (b : Balance) : readCredit (balanceJson b).toValue = .ok (Credit.ofBalance b) := by
  have distinct : ([Text.ofString "account", Text.ofString "asset", Text.ofString "amount"]).Nodup := by decide
  refine Json.of_record (P := fun v => readCredit v = .ok (Credit.ofBalance b)) distinct fun entries listed => ?_
  have fields := listed.entry
  simp only [List.forall_mem_cons] at fields
  obtain ⟨h₁, h₂, h₃, -⟩ := fields
  simp only [readCredit, bind_eq_ok_iff, liftM, monadLift, MonadLift.monadLift, mapError_eq_ok_iff]
  exact ⟨_, h₁, _, h₂, _, h₃, b.amount, rfl, rfl⟩

/-- A document describes what it lists. -/
theorem describes_document (ps : List PoolRecord) (qs : List ParticipantRecord) (bs : List Balance) :
    Describes (document ps qs bs).toValue ps qs (bs.map Credit.ofBalance) := by
  have distinct : ([Text.ofString "version", Text.ofString "pools", Text.ofString "participants",
    Text.ofString "balances"]).Nodup := by decide
  refine Json.of_record (P := fun v => Describes v ps qs (bs.map Credit.ofBalance)) distinct fun entries listed => ?_
  have fields := listed.get?
  simp only [List.forall_mem_cons] at fields
  obtain ⟨version, pools, participants, balances, -⟩ := fields
  refine ⟨⟨_, Value.fieldOr_eq_ok_iff.mpr ⟨entries, rfl, by rw [version]; rfl⟩, Value.isOne_int_iff.mpr rfl⟩,
    ⟨_, listed_of_get? rfl pools, ?_⟩, ⟨_, listed_of_get? rfl participants, ?_⟩, ⟨_, listed_of_get? rfl balances, ?_⟩⟩
  · simp [Json.itemsToValues_eq_map, PoolRecord.ofValue_toJson, List.forall₂_same]
  · simp [Json.itemsToValues_eq_map, ParticipantRecord.ofValue_toJson, List.forall₂_same]
  · simp [Json.itemsToValues_eq_map, readCredit_balanceJson, List.forall₂_same]

/-- A consistent store is restored from any document of its rows, whatever their order. -/
theorem restore_document {s : Store Ledger} (h : s.Consistent) {ps : List PoolRecord} {qs : List ParticipantRecord}
    {bs : List Balance} (pools : ps.Perm s.pools.rows) (participants : qs.Perm s.participants.rows)
    (balances : bs.Perm s.ledger.balances.rows) : restore (document ps qs bs).toValue = .ok s := by
  have distinct : ((bs.map Credit.ofBalance).map Credit.key).Nodup := by
    rw [List.map_map]
    exact (balances.map _).nodup_iff.mpr s.ledger.balances.keys_nodup
  refine restore_eq_ok_iff.mpr
    ⟨ps, qs, bs.map Credit.ofBalance, describes_document ps qs bs, ⟨?_, ?_, distinct, ?_⟩, ?_, h⟩
  · exact (pools.map _).nodup_iff.mpr s.pools.keys_nodup
  · exact (participants.map _).nodup_iff.mpr s.participants.keys_nodup
  · exact List.forall_mem_map.mpr fun b _ => Int.le_of_lt b.positive
  · rw [ofLists, Table.insertAll_of_perm pools, Table.insertAll_of_perm participants,
      Ledger.foldl_afterCredit_of_perm balances]

end Store

end YieldPool
