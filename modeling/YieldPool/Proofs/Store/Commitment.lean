import YieldPool.Proofs.Json.Canonical
import YieldPool.Proofs.Ledger
import YieldPool.Proofs.Table
import YieldPool.Store.Snapshot

/-!
# Which stores have a commitment

The commitment of a store is the digest of its snapshot, and the snapshot has a canonical form exactly when every name
in the store is well-formed: of pools and assets, of the owners of pools and participants, and of accounts
(`committable_iff`). `Named whose` says which names of owners and accounts there are, so that it can be kept by
operations that write the name of somebody else.
-/

namespace YieldPool

/-- A pool's owner is as said, and the names of the pool and of its assets are well-formed. -/
structure PoolRecord.Named (whose : Text → Prop) (p : PoolRecord) : Prop where
  poolId : p.poolId.isWellFormed = true
  owner : whose p.owner
  stakeAsset : p.stakeAsset.isWellFormed = true
  rewardAsset : p.rewardAsset.isWellFormed = true

/-- A participant's owner is as said, and the name of the pool is well-formed. -/
structure ParticipantRecord.Named (whose : Text → Prop) (q : ParticipantRecord) : Prop where
  poolId : q.poolId.isWellFormed = true
  owner : whose q.owner

/-- The document of a pool is well-formed exactly if its names are. -/
theorem PoolRecord.isWellFormed_toJson_iff {p : PoolRecord} :
    p.toJson.isWellFormed = true ↔ p.Named (·.isWellFormed = true) := by
  have status : p.status.name.isWellFormed = true := by
    cases p.status <;> exact Text.isWellFormed_ofString _
  rw [toJson, Json.isWellFormed_record_iff]
  simp only [List.forall_mem_cons, Text.isWellFormed_ofString, Json.isWellFormed, status, true_and, and_true]
  exact ⟨fun ⟨h₁, h₂, h₃, h₄, _⟩ => ⟨h₁, h₂, h₃, h₄⟩, fun ⟨h₁, h₂, h₃, h₄⟩ => ⟨h₁, h₂, h₃, h₄, nofun⟩⟩

/-- The document of a participant is well-formed exactly if its names are. -/
theorem ParticipantRecord.isWellFormed_toJson_iff {q : ParticipantRecord} :
    q.toJson.isWellFormed = true ↔ q.Named (·.isWellFormed = true) := by
  rw [toJson, Json.isWellFormed_record_iff]
  simp only [List.forall_mem_cons, Text.isWellFormed_ofString, Json.isWellFormed, true_and, and_true]
  exact ⟨fun ⟨h₁, h₂, _⟩ => ⟨h₁, h₂⟩, fun ⟨h₁, h₂⟩ => ⟨h₁, h₂, nofun⟩⟩

namespace Store

/-- A store has a commitment. -/
def Committable (s : Store Ledger) : Prop := ∃ digest, s.commitment = .ok digest

/-- The owners and accounts in a store are as said, and the names of pools and assets are well-formed. -/
structure Named (whose : Text → Prop) (s : Store Ledger) : Prop where
  pools : ∀ p ∈ s.pools.rows, p.Named whose
  participants : ∀ q ∈ s.participants.rows, q.Named whose
  balances : ∀ account asset, s.balance account asset ≠ 0 → whose account ∧ asset.isWellFormed = true

/-- The document of a balance is well-formed exactly if its names are. -/
theorem isWellFormed_balanceJson_iff {b : Balance} :
    (balanceJson b).isWellFormed = true ↔ b.account.isWellFormed = true ∧ b.asset.isWellFormed = true := by
  rw [balanceJson, Json.isWellFormed_record_iff]
  simp only [List.forall_mem_cons, Text.isWellFormed_ofString, Json.isWellFormed, true_and, and_true]
  exact ⟨fun ⟨h₁, h₂, _⟩ => ⟨h₁, h₂⟩, fun ⟨h₁, h₂⟩ => ⟨h₁, h₂, nofun⟩⟩

/-- A store has a commitment exactly when its snapshot is well-formed. -/
theorem committable_iff_snapshot {s : Store Ledger} : s.Committable ↔ s.snapshot.isWellFormed = true := by
  have label : ("store_snapshot" : Text).all CodePoint.isAscii = true := by decide
  rw [← Json.canonicalBytes_toValue_iff]
  simp only [Committable, commitment, Digest.digest, Digest.message, Digest.compose, bind_eq_ok_iff, require_eq_ok_iff,
    liftM, monadLift, MonadLift.monadLift, mapError_eq_ok_iff, pure, Except.pure, Except.ok.injEq]
  constructor
  · rintro ⟨-, -, ⟨-, -, bytes, canonical, -⟩, -⟩
    exact ⟨bytes, canonical⟩
  · rintro ⟨bytes, canonical⟩
    exact ⟨_, _, ⟨(), label, bytes, canonical, rfl⟩, rfl⟩

/-- All rows of the ledger satisfy what all balances satisfy that are not zero. -/
theorem forall_balances_iff {s : Store Ledger} {P : Text → Text → Prop} :
    (∀ b ∈ s.ledger.balances.rows, P b.account b.asset) ↔
      ∀ account asset, s.balance account asset ≠ 0 → P account asset := by
  constructor
  · intro rows account asset held
    obtain ⟨b, member, key⟩ := Ledger.balance_ne_zero_iff.mp held
    obtain ⟨rfl, rfl⟩ := Prod.mk.inj key
    exact rows b member
  · intro held b member
    exact held b.account b.asset (Ledger.balance_ne_zero_iff.mpr ⟨b, member, rfl⟩)

/-- A store has a commitment exactly when every name in it is well-formed. -/
theorem committable_iff {s : Store Ledger} : s.Committable ↔ s.Named (·.isWellFormed = true) := by
  rw [committable_iff_snapshot, snapshot, Json.isWellFormed_record_iff]
  simp only [List.forall_mem_cons, Text.isWellFormed_ofString, Json.isWellFormed, Json.itemsWellFormed_iff,
    List.forall_mem_map, PoolRecord.isWellFormed_toJson_iff, ParticipantRecord.isWellFormed_toJson_iff,
    isWellFormed_balanceJson_iff, true_and]
  rw [forall_balances_iff (P := fun account asset => account.isWellFormed = true ∧ asset.isWellFormed = true)]
  exact ⟨fun ⟨h₁, h₂, h₃, _⟩ => ⟨h₁, h₂, h₃⟩, fun ⟨h₁, h₂, h₃⟩ => ⟨h₁, h₂, h₃, nofun⟩⟩

end Store

end YieldPool
