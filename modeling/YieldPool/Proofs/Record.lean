import YieldPool.Proofs.Refusal
import YieldPool.Record

/-!
# Reading and changing records

Reading unchecked fields yields a record exactly when the fields are that record's (`PoolRecord.read_eq_ok_iff`,
`ParticipantRecord.read_eq_ok_iff`). A change of a record succeeds exactly when the new values fit, and leaves the other
fields. Whatever is refused is refused as a record, and for another reason than a status without a name.
-/

namespace YieldPool

namespace RecordField

/-- A value is read as a text exactly if it is that text, which is not empty. -/
theorem readText_eq_ok_iff {field : Text} {v : Value} {t : { t : Text // t ≠ [] }} :
    readText field v = .ok t ↔ v = .text t.1 := by
  obtain ⟨t, ne⟩ := t
  unfold readText
  split
  · rename_i u
    split
    · simp
    · rename_i empty
      constructor
      · intro h
        cases h
      · intro h
        cases h
        exact absurd ne empty
  · rename_i other
    constructor
    · intro h
      cases h
    · intro h
      exact absurd h (other t)

/-- A value is read as a status exactly if it is that status. -/
theorem readStatus_eq_ok_iff {v : Value} {s : PoolStatus} : readStatus v = .ok s ↔ v = .status s := by
  unfold readStatus
  split
  · simp
  · rename_i other
    exact ⟨nofun, fun h => absurd h (other s)⟩

/-- A value is read as an integer within bounds exactly if it is that integer. -/
theorem readInt_eq_ok_iff {field : Text} {least greatest : Int} {v : Value}
    {n : { n : Int // least ≤ n ∧ n ≤ greatest }} : readInt field least greatest v = .ok n ↔ v = .int n.1 := by
  obtain ⟨n, fits⟩ := n
  unfold readInt
  split
  · rename_i u
    split
    · simp
    · rename_i outside
      constructor
      · intro h
        cases h
      · intro h
        cases h
        exact absurd fits outside
  · rename_i other
    constructor
    · intro h
      cases h
    · intro h
      exact absurd h (other n)

/-- A value is read as an integer of a width exactly if it is that integer. -/
theorem readFitting_eq_ok_iff {field : Text} {w : Width} {v : Value} {n : { n : Int // w.Fits n }} :
    readFitting field w v = .ok n ↔ v = .int n.1 :=
  readInt_eq_ok_iff

variable {E : Error → Prop}

@[simp] theorem refusesWith_readText (record : ∀ r, r ≠ .unknownStatus → E (.record r)) (field : Text) (v : Value) :
    RefusesWith E (readText field v) := by
  unfold readText
  repeat' split
  all_goals simp [record]

@[simp] theorem refusesWith_readStatus (record : ∀ r, r ≠ .unknownStatus → E (.record r)) (v : Value) :
    RefusesWith E (readStatus v) := by
  unfold readStatus
  split <;> simp [record]

@[simp] theorem refusesWith_readInt (record : ∀ r, r ≠ .unknownStatus → E (.record r)) (field : Text)
    (least greatest : Int) (v : Value) : RefusesWith E (readInt field least greatest v) := by
  unfold readInt
  repeat' split
  all_goals simp [record]

@[simp] theorem refusesWith_readFitting (record : ∀ r, r ≠ .unknownStatus → E (.record r)) (field : Text) (w : Width)
    (v : Value) : RefusesWith E (readFitting field w v) :=
  refusesWith_readInt record field w.least w.greatest v

end RecordField

open RecordField

namespace PoolRecord

/-- Fields are read as a pool exactly when they are the pool's. -/
theorem read_eq_ok_iff {f : Fields} {p : PoolRecord} :
    read f = .ok p ↔ f.poolId = .text p.poolId ∧ f.owner = .text p.owner ∧ f.status = .status p.status ∧
      f.genesisTime = .int p.genesisTime ∧ f.periodLength = .int p.periodLength ∧ f.rewardRate = .int p.rewardRate ∧
      f.totalShares = .int p.totalShares ∧ f.compensation = .int p.compensation ∧
      f.stakeAsset = .text p.stakeAsset ∧ f.rewardAsset = .text p.rewardAsset := by
  simp only [read, bind_eq_ok_iff, readText_eq_ok_iff, readStatus_eq_ok_iff, readInt_eq_ok_iff,
    readFitting_eq_ok_iff]
  constructor
  · rintro ⟨_, h₁, _, h₂, _, h₃, _, h₄, _, h₅, _, h₆, _, h₇, _, h₈, _, h₉, _, h₁₀, h⟩
    cases h
    exact ⟨h₁, h₂, h₃, h₄, h₅, h₆, h₇, h₈, h₉, h₁₀⟩
  · rintro ⟨h₁, h₂, h₃, h₄, h₅, h₆, h₇, h₈, h₉, h₁₀⟩
    exact ⟨⟨_, p.poolId_ne⟩, h₁, ⟨_, p.owner_ne⟩, h₂, _, h₃, ⟨_, p.genesisTime_fits⟩, h₄,
      ⟨_, p.periodLength_pos, p.periodLength_fits.2⟩, h₅, ⟨_, p.rewardRate_fits⟩, h₆, ⟨_, p.totalShares_fits⟩, h₇,
      ⟨_, p.compensation_fits⟩, h₈, ⟨_, p.stakeAsset_ne⟩, h₉, ⟨_, p.rewardAsset_ne⟩, h₁₀, rfl⟩

/-- A pool takes another total and compensation exactly if these fit their widths. -/
theorem withStake_eq_ok_iff {p q : PoolRecord} {totalShares compensation : Int} :
    p.withStake totalShares compensation = .ok q ↔
      ∃ (totalShares_fits : Width.u64.Fits totalShares) (compensation_fits : Width.i128.Fits compensation),
        { p with totalShares, compensation, totalShares_fits, compensation_fits } = q := by
  simp only [withStake, bind_eq_ok_iff, readFitting_eq_ok_iff]
  constructor
  · rintro ⟨⟨_, fits⟩, h₁, ⟨_, fits'⟩, h₂, h⟩
    cases h₁
    cases h₂
    exact ⟨fits, fits', Except.ok.inj h⟩
  · rintro ⟨fits, fits', rfl⟩
    exact ⟨⟨_, fits⟩, rfl, ⟨_, fits'⟩, rfl, rfl⟩

/-- A pool takes another owner exactly if the name is not empty. -/
theorem withOwner_eq_ok_iff {p q : PoolRecord} {owner : Text} :
    p.withOwner owner = .ok q ↔ ∃ owner_ne : owner ≠ [], { p with owner, owner_ne } = q := by
  simp only [withOwner, bind_eq_ok_iff, readText_eq_ok_iff]
  constructor
  · rintro ⟨⟨_, ne⟩, h₁, h⟩
    cases h₁
    exact ⟨ne, Except.ok.inj h⟩
  · rintro ⟨ne, rfl⟩
    exact ⟨⟨_, ne⟩, rfl, rfl⟩

variable {E : Error → Prop} (record : ∀ r, r ≠ .unknownStatus → E (.record r))

include record

@[simp] theorem refusesWith_read (f : Fields) : RefusesWith E (read f) := by
  simp +contextual [read, record]

@[simp] theorem refusesWith_withStake (p : PoolRecord) (totalShares compensation : Int) :
    RefusesWith E (p.withStake totalShares compensation) := by
  simp +contextual [withStake, record]

@[simp] theorem refusesWith_withOwner (p : PoolRecord) (owner : Text) : RefusesWith E (p.withOwner owner) := by
  simp +contextual [withOwner, record]

end PoolRecord

namespace ParticipantRecord

/-- Fields are read as a participant exactly when they are the participant's. -/
theorem read_eq_ok_iff {poolId owner shares debt : Value} {p : ParticipantRecord} :
    read poolId owner shares debt = .ok p ↔
      poolId = .text p.poolId ∧ owner = .text p.owner ∧ shares = .int p.shares ∧ debt = .int p.debt := by
  simp only [read, bind_eq_ok_iff, readText_eq_ok_iff, readFitting_eq_ok_iff]
  constructor
  · rintro ⟨_, h₁, _, h₂, _, h₃, _, h₄, h⟩
    cases h
    exact ⟨h₁, h₂, h₃, h₄⟩
  · rintro ⟨h₁, h₂, h₃, h₄⟩
    exact ⟨⟨_, p.poolId_ne⟩, h₁, ⟨_, p.owner_ne⟩, h₂, ⟨_, p.shares_fits⟩, h₃, ⟨_, p.debt_fits⟩, h₄, rfl⟩

/-- A fresh record is that of the owner in the pool, without shares and debt. -/
theorem fresh_eq_ok_iff {poolId owner : Text} {p : ParticipantRecord} :
    fresh poolId owner = .ok p ↔ poolId = p.poolId ∧ owner = p.owner ∧ p.shares = 0 ∧ p.debt = 0 := by
  simp only [fresh, read_eq_ok_iff, Value.text.injEq, Value.int.injEq]
  exact ⟨fun ⟨h₁, h₂, h₃, h₄⟩ => ⟨h₁, h₂, h₃.symm, h₄.symm⟩, fun ⟨h₁, h₂, h₃, h₄⟩ => ⟨h₁, h₂, h₃.symm, h₄.symm⟩⟩

/-- A participant takes other shares and debt exactly if these fit their widths. -/
theorem withHolding_eq_ok_iff {p q : ParticipantRecord} {shares debt : Int} :
    p.withHolding shares debt = .ok q ↔
      ∃ (shares_fits : Width.u64.Fits shares) (debt_fits : Width.u128.Fits debt),
        { p with shares, debt, shares_fits, debt_fits } = q := by
  simp only [withHolding, bind_eq_ok_iff, readFitting_eq_ok_iff]
  constructor
  · rintro ⟨⟨_, fits⟩, h₁, ⟨_, fits'⟩, h₂, h⟩
    cases h₁
    cases h₂
    exact ⟨fits, fits', Except.ok.inj h⟩
  · rintro ⟨fits, fits', rfl⟩
    exact ⟨⟨_, fits⟩, rfl, ⟨_, fits'⟩, rfl, rfl⟩

/-- Nothing would be lost with a record exactly if it has neither shares nor debt. -/
theorem isClosable_iff {p : ParticipantRecord} : p.isClosable = true ↔ p.shares = 0 ∧ p.debt = 0 := by
  simp [isClosable]

variable {E : Error → Prop} (record : ∀ r, r ≠ .unknownStatus → E (.record r))

include record

@[simp] theorem refusesWith_read (poolId owner shares debt : Value) :
    RefusesWith E (read poolId owner shares debt) := by
  simp +contextual [read, record]

@[simp] theorem refusesWith_fresh (poolId owner : Text) : RefusesWith E (fresh poolId owner) :=
  refusesWith_read record _ _ _ _

@[simp] theorem refusesWith_withHolding (p : ParticipantRecord) (shares debt : Int) :
    RefusesWith E (p.withHolding shares debt) := by
  simp +contextual [withHolding, record]

end ParticipantRecord

end YieldPool
