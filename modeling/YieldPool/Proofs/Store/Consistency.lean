import YieldPool.Proofs.Table
import YieldPool.Store

/-!
# Consistency is kept

A store is consistent exactly when each pool's total is what its participants hold, an empty pool carries no
compensation, and every participant belongs to a pool (`consistent_iff`); the widths are part of the records. A change
of stake writes the pool and the participant together, and only both writes together keep the store consistent
(`Consistent.putBoth`).
-/

namespace YieldPool

variable {L : Type}

namespace Store

/-- The shares that a record counts for a pool. -/
def sharesFor (poolId : Text) (q : ParticipantRecord) : Int := if q.poolId = poolId then q.shares else 0

/-- The shares that all participants of a pool hold together. -/
def sharesIn (s : Store L) (poolId : Text) : Int := s.participants.sum (sharesFor poolId)

/-- The shares of an owner in a pool; none without a record. -/
def sharesOf (s : Store L) (owner poolId : Text) : Int :=
  (s.participant? owner poolId).elim 0 ParticipantRecord.shares

/-- The books of a pool are in order. -/
def Balanced (s : Store L) (p : PoolRecord) : Prop :=
  s.sharesIn p.poolId = p.totalShares ∧ (p.totalShares = 0 → p.compensation = 0)

/-- The shares of the rows of a pool add up to what all rows have in the pool. -/
theorem sum_filter_shares (poolId : Text) (rows : List ParticipantRecord) :
    ((rows.filter fun q => decide (q.poolId = poolId)).map ParticipantRecord.shares).sum =
      (rows.map (sharesFor poolId)).sum := by
  induction rows with
  | nil => rfl
  | cons q rest ih =>
    by_cases e : q.poolId = poolId <;> simp [sharesFor, e, ih]

/-- What the books of a pool count as held is held by its participants. -/
theorem sharesHeld_books (s : Store L) (p : PoolRecord) : (s.books p).sharesHeld = s.sharesIn p.poolId :=
  sum_filter_shares p.poolId s.participants.rows

/-- The books of a pool violate nothing exactly if the pool is balanced. -/
theorem violations_books_iff {s : Store L} {p : PoolRecord} : (s.books p).violations = [] ↔ s.Balanced p := by
  rw [Reward.Books.violations_eq_nil_iff]
  constructor
  · intro obeys
    have total := obeys .totalMatchesParticipants
    have uncompensated := obeys .emptyPoolUncompensated
    simp only [Reward.Books.obeys, decide_eq_true_eq, sharesHeld_books] at total uncompensated
    exact ⟨total.symm, uncompensated⟩
  · rintro ⟨total, uncompensated⟩ v
    cases v with
    | totalMatchesParticipants => exact decide_eq_true ((sharesHeld_books s p).trans total).symm
    | totalFitsU64 => exact decide_eq_true p.totalShares_fits
    | compensationFitsI128 => exact decide_eq_true p.compensation_fits
    | emptyPoolUncompensated => exact decide_eq_true uncompensated
    | debtsFitU128 =>
      simp only [Reward.Books.obeys, books, List.all_map, List.all_eq_true]
      intro q _
      exact decide_eq_true q.debt_fits

/-- A store is consistent exactly if every pool is balanced and every participant belongs to a pool. -/
theorem consistent_iff {s : Store L} :
    s.Consistent ↔ (∀ poolId p, s.pool? poolId = some p → s.Balanced p) ∧
      ∀ q ∈ s.participants.rows, ∃ p, s.pool? q.poolId = some p := by
  simp only [Consistent, violations_books_iff, Table.contains_eq_true_iff, pool?]
  refine and_congr_left fun _ => ?_
  constructor
  · intro h poolId p found
    exact h p (Table.mem_of_find? found)
  · intro h p hp
    exact h p.poolId p (Table.find?_eq_some_iff.mpr ⟨hp, rfl⟩)

/-- The empty store is consistent. -/
theorem consistent_empty : empty.Consistent := by
  constructor <;> exact fun _ h => absurd h List.not_mem_nil

/-! ## The shares after a write -/

/-- The record of an owner in a pool has its shares in that pool and in no other. -/
theorem elim_sharesFor (s : Store L) (owner poolId other : Text) :
    (s.participants.find? (poolId, owner)).elim 0 (sharesFor other) =
      if poolId = other then s.sharesOf owner other else 0 := by
  unfold sharesOf participant?
  cases found : s.participants.find? (poolId, owner) with
  | none =>
    split
    · rename_i e
      rw [← e, found]
      rfl
    · rfl
  | some q =>
    have e : q.poolId = poolId := congrArg Prod.fst (Table.key_of_find? found)
    unfold sharesFor
    rw [Option.elim_some, e]
    split
    · rename_i e'
      rw [← e', found]
      rfl
    · rfl

/-- A participant that is put in changes the shares of its pool by what it gains. -/
theorem sharesIn_putParticipant (s : Store L) (q : ParticipantRecord) (poolId : Text) :
    (s.putParticipant q).sharesIn poolId =
      s.sharesIn poolId + (if q.poolId = poolId then q.shares - s.sharesOf q.owner poolId else 0) := by
  have inserted := Table.sum_insert s.participants (sharesFor poolId) q
  rw [show q.key = (q.poolId, q.owner) from rfl, elim_sharesFor] at inserted
  show (s.participants.insert q).sum (sharesFor poolId) = s.participants.sum (sharesFor poolId) + _
  by_cases e : q.poolId = poolId
  · have counted : sharesFor poolId q = q.shares := if_pos e
    rw [if_pos e] at inserted ⊢
    omega
  · have counted : sharesFor poolId q = 0 := if_neg e
    rw [if_neg e] at inserted ⊢
    omega

/-- A participant that is taken away takes its shares from the shares of its pool. -/
theorem sharesIn_eraseParticipant (s : Store L) (owner poolId other : Text) :
    ({ s with participants := s.participants.erase (poolId, owner) } : Store L).sharesIn other =
      s.sharesIn other - (if poolId = other then s.sharesOf owner other else 0) := by
  have erased := Table.sum_erase s.participants (sharesFor other) (poolId, owner)
  rw [elim_sharesFor] at erased
  show (s.participants.erase (poolId, owner)).sum (sharesFor other) = s.participants.sum (sharesFor other) - _
  omega

/-- Who has a record has the shares that it states. -/
theorem sharesOf_of_found {s : Store L} {owner poolId : Text} {q : ParticipantRecord}
    (found : s.participant? owner poolId = some q) : s.sharesOf owner poolId = q.shares := by
  rw [sharesOf, found]
  rfl

/-! ## Writes that keep a store consistent -/

namespace Consistent

variable {s t : Store L}

/-- The shares of a pool that does not exist are none. -/
theorem sharesIn_of_absent (h : s.Consistent) {poolId : Text} (absent : s.pool? poolId = none) :
    s.sharesIn poolId = 0 := by
  have none : ∀ q ∈ s.participants.rows, sharesFor poolId q = 0 := by
    intro q hq
    obtain ⟨p, found⟩ := (consistent_iff.mp h).2 q hq
    refine if_neg fun e => ?_
    rw [e, absent] at found
    cases found
  exact List.sum_eq_zero fun x hx => by
    obtain ⟨q, hq, rfl⟩ := List.mem_map.mp hx
    exact none q hq

/-- A pool is put in whose books are in order. -/
theorem putPool (h : s.Consistent) {p : PoolRecord} (balanced : s.Balanced p) : (s.putPool p).Consistent := by
  obtain ⟨pools, owned⟩ := consistent_iff.mp h
  refine consistent_iff.mpr ⟨fun poolId r found => ?_, fun q hq => ?_⟩
  · rw [pool?_putPool] at found
    split at found
    · cases found
      exact balanced
    · exact pools poolId r found
  · rw [pool?_putPool]
    split
    · exact ⟨p, rfl⟩
    · exact owned q hq

/-- A pool and one of its participants are put in, and the total takes up the difference. -/
theorem putBoth (h : s.Consistent) {p : PoolRecord} {q : ParticipantRecord} (same : q.poolId = p.poolId)
    (total : s.sharesIn p.poolId + (q.shares - s.sharesOf q.owner p.poolId) = p.totalShares)
    (uncompensated : p.totalShares = 0 → p.compensation = 0) : ((s.putPool p).putParticipant q).Consistent := by
  obtain ⟨pools, owned⟩ := consistent_iff.mp h
  refine consistent_iff.mpr ⟨fun poolId r found => ?_, fun a ha => ?_⟩
  · rw [pool?_putParticipant, pool?_putPool] at found
    unfold Balanced
    rw [sharesIn_putParticipant]
    split at found
    · cases found
      exact ⟨by rw [if_pos same]; exact total, uncompensated⟩
    · rename_i other
      have balanced := pools poolId r found
      rw [← poolId_of_pool? found, ← same] at other
      rw [if_neg other, Int.add_zero]
      exact balanced
  · rw [pool?_putParticipant, pool?_putPool]
    split
    · exact ⟨p, rfl⟩
    · rename_i other
      rcases Table.mem_insert_rows.mp ha with rfl | ⟨ha, -⟩
      · exact absurd same.symm other
      · exact owned a ha

/-- A participant of a pool is put in without a change of shares. -/
theorem putParticipant (h : s.Consistent) {p : PoolRecord} {q : ParticipantRecord}
    (found : s.pool? q.poolId = some p) (same : s.sharesOf q.owner q.poolId = q.shares) :
    (s.putParticipant q).Consistent := by
  obtain ⟨pools, owned⟩ := consistent_iff.mp h
  refine consistent_iff.mpr ⟨fun poolId r found => ?_, fun a ha => ?_⟩
  · have balanced := pools poolId r found
    unfold Balanced
    rw [sharesIn_putParticipant]
    split
    · rename_i e
      rw [← e, same, Int.sub_self, Int.add_zero, e]
      exact balanced
    · rw [Int.add_zero]
      exact balanced
  · rcases Table.mem_insert_rows.mp ha with rfl | ⟨ha, -⟩
    · exact ⟨p, found⟩
    · exact owned a ha

/-- A participant without shares is dropped. -/
theorem eraseParticipant (h : s.Consistent) {owner poolId : Text} (none : s.sharesOf owner poolId = 0) :
    ({ s with participants := s.participants.erase (poolId, owner) } : Store L).Consistent := by
  obtain ⟨pools, owned⟩ := consistent_iff.mp h
  refine consistent_iff.mpr ⟨fun other r found => ?_, fun a ha => owned a (Table.mem_erase_rows.mp ha).1⟩
  have balanced := pools other r found
  unfold Balanced
  rw [sharesIn_eraseParticipant]
  split
  · rename_i e
    rw [← e, none, Int.sub_zero, e]
    exact balanced
  · rw [Int.sub_zero]
    exact balanced

/-- A pool without participants is dropped. -/
theorem erasePool (h : s.Consistent) {poolId : Text} (none : ∀ q ∈ s.participants.rows, q.poolId ≠ poolId) :
    ({ s with pools := s.pools.erase poolId } : Store L).Consistent := by
  obtain ⟨pools, owned⟩ := consistent_iff.mp h
  refine consistent_iff.mpr ⟨fun other r found => ?_, fun q hq => ?_⟩
  · simp only [pool?, Table.find?_erase] at found
    split at found
    · cases found
    · exact pools other r found
  · obtain ⟨p, found⟩ := owned q hq
    refine ⟨p, ?_⟩
    simp only [pool?, Table.find?_erase]
    rw [if_neg (Ne.symm (none q hq))]
    exact found

end Consistent

end Store

end YieldPool
