import YieldPool.Proofs.Handler.Name
import YieldPool.Proofs.Transaction.Run

/-!
# Commitments after requests

The operations of a request have canonical forms, so whatever names stand in them are well-formed; the name of the
sender need not be. A store that has a commitment therefore has one after a request, too, exactly if the sender's name
is well-formed or the store does not mention it (`committable_afterRequest_iff`).
-/

namespace YieldPool

namespace Store

/-- A name is that of an owner or of an account with a balance. -/
def Mentions (s : Store Ledger) (name : Text) : Prop :=
  (∃ p ∈ s.pools.rows, p.owner = name) ∨ (∃ q ∈ s.participants.rows, q.owner = name) ∨
    ∃ asset, s.balance name asset ≠ 0

namespace Named

variable {whose : Text → Prop} {s : Store Ledger}

/-- Names that are mentioned are as said. -/
theorem of_mentions (h : s.Named whose) {name : Text} (mentioned : s.Mentions name) : whose name := by
  rcases mentioned with ⟨p, member, rfl⟩ | ⟨q, member, rfl⟩ | ⟨asset, held⟩
  · exact (h.pools p member).owner
  · exact (h.participants q member).owner
  · exact (h.balances name asset held).1

/-- What holds of the names that are mentioned can be said of all. -/
theorem of_forall_mentions (h : s.Named whose) {kept : Text → Prop} (all : ∀ name, s.Mentions name → kept name) :
    s.Named kept := by
  constructor
  · intro p member
    obtain ⟨poolId, -, stakeAsset, rewardAsset⟩ := h.pools p member
    exact ⟨poolId, all p.owner (Or.inl ⟨p, member, rfl⟩), stakeAsset, rewardAsset⟩
  · intro q member
    exact ⟨(h.participants q member).poolId, all q.owner (Or.inr (Or.inl ⟨q, member, rfl⟩))⟩
  · intro account asset held
    exact ⟨all account (Or.inr (Or.inr ⟨asset, held⟩)), (h.balances account asset held).2⟩

end Named

end Store

namespace Transaction

variable {whose : Text → Prop} {c : Handler.Context} {s t : Store Ledger}

/-- Well-formed operations write no names but their own and the sender's. -/
theorem named_run (ordinary : ∀ t : Text, t.isWellFormed = true → whose t) (acting : whose c.sender)
    {ops : List Operation} (wellFormed : ∀ op ∈ ops, op.WellFormed) (h : s.Named whose) {effects : List Effect}
    (ran : run c s ops = .ok (t, effects)) : t.Named whose :=
  run_keeps (I := Store.Named whose) (fun _ _ _ _ => Handler.named_ofAction ordinary acting) wellFormed h ran

/-- A request writes no names but well-formed ones and the sender's. -/
theorem named_applyOrThrow {config : Config} {clock : Int} {r : Request} {effects : List Effect}
    (ordinary : ∀ t : Text, t.isWellFormed = true → whose t) (acting : ∀ sender, r.sender = .text sender → whose sender)
    (h : s.Named whose) (applied : applyOrThrow config clock r s = .ok (t, effects)) : t.Named whose := by
  obtain ⟨sender, named, now, -, ops, parsed, ran, -⟩ := applyOrThrow_eq_ok_iff.mp applied
  obtain ⟨text, -, -⟩ := Operation.requireText_eq_ok_iff.mp named
  exact named_run ordinary (acting sender text) (Operation.wellFormed_of_parse parsed) h ran

end Transaction

/-- A store that has a commitment has one after a request exactly if the sender's name is well-formed or the store does
not mention it. The names that a request writes are well-formed or the sender's. -/
theorem committable_afterRequest_iff {s : Store Ledger} (committable : s.Committable) (config : Config) (clock : Int)
    (r : Request) :
    (s.afterRequest config clock r).Committable ↔
      ∀ sender, r.sender = .text sender → (s.afterRequest config clock r).Mentions sender →
        sender.isWellFormed = true := by
  have wellFormed := Store.committable_iff.mp committable
  rw [Store.committable_iff]
  constructor
  · intro after sender _ mentioned
    exact after.of_mentions mentioned
  · intro checked
    have before : s.Named fun name => name.isWellFormed = true ∨ r.sender = .text name :=
      wellFormed.of_forall_mentions fun name mentioned => Or.inl (wellFormed.of_mentions mentioned)
    have after : (s.afterRequest config clock r).Named fun name =>
        name.isWellFormed = true ∨ r.sender = .text name := by
      rcases s.afterRequest_cases config clock r with ⟨same, -⟩ | applied
      · rwa [same]
      · exact Transaction.named_applyOrThrow (fun _ => Or.inl) (fun _ => Or.inr) before applied
    refine after.of_forall_mentions fun name mentioned => ?_
    rcases after.of_mentions mentioned with sound | sent
    · exact sound
    · exact checked name sent mentioned

/-- Somebody opens a pool. -/
def opening (sender : Text) : Request :=
  requestOf sender "initialize_pool" 0 [(.text "reward_rate", .int 5), (.text "period", .int 10),
    (.text "stake_asset", .text "s"), (.text "reward_asset", .text "r")]

/-- A store that has a commitment still has one after a pool is opened under a well-formed name. -/
theorem committable_afterRequest_iff_opening :
    Store.empty.Committable ∧ (Store.empty.afterRequest {} 0 (opening "o")).Committable := by
  have committable : Store.empty.Committable := Store.committable_iff_snapshot.mpr (by decide +kernel)
  refine ⟨committable, (committable_afterRequest_iff committable {} 0 (opening "o")).mpr ?_⟩
  intro sender sent _
  cases sent
  exact Text.isWellFormed_ofString "o"

/-- The empty store has a commitment, and none after a lone surrogate has opened a pool. -/
theorem commitment_lost_to_surrogate :
    Store.empty.Committable ∧
      Transaction.apply {} 0 (opening [0xD800]) Store.empty =
        .ok (Store.empty.afterRequest {} 0 (opening [0xD800]),
          .accepted [⟨.initializePool, "p", [0xD800], .poolOpened 0⟩]) ∧
      ¬(Store.empty.afterRequest {} 0 (opening [0xD800])).Committable := by
  have committable : Store.empty.Committable := Store.committable_iff_snapshot.mpr (by decide +kernel)
  refine ⟨committable, toOption_eq_some_iff.mp (by decide +kernel), ?_⟩
  rw [Store.committable_iff_snapshot]
  decide +kernel

end YieldPool
