import YieldPool.Proofs.Store.Restore
import YieldPool.Proofs.Transaction.Answer
import YieldPool.Proofs.Transaction.Frame

/-!
# A restored store answers as the original

A consistent store is restored from its snapshot with the same records and balances, so whatever is asked of it later
has the same answers and leaves the same snapshots as on the original (`snapshots_are_transparent`).
-/

namespace YieldPool

/-- A request, with the configuration and the time of the clock under which it is made. -/
structure Call where
  config : Config
  clock : Int
  request : Request

namespace Store

/-- The answers to calls that are made one after the other, each with the snapshot after it. -/
def transcript (s : Store Ledger) : List Call → Except Error (List (TxResult × Json))
  | [] => .ok []
  | call :: rest => do
    let (t, result) ← Transaction.apply call.config call.clock call.request s
    let others ← t.transcript rest
    return (result, t.snapshot) :: others

/-- All calls are answered. -/
theorem exists_transcript_eq_ok (s : Store Ledger) (calls : List Call) :
    ∃ answers, s.transcript calls = .ok answers ∧ answers.length = calls.length := by
  induction calls generalizing s with
  | nil => exact ⟨[], rfl, rfl⟩
  | cons call rest ih =>
    obtain ⟨t, result, answered⟩ := Transaction.exists_apply_eq_ok call.config call.clock call.request s
    obtain ⟨others, following, length⟩ := ih t
    refine ⟨(result, t.snapshot) :: others, ?_, congrArg (· + 1) length⟩
    simp only [transcript, answered, following, bind, Except.bind, pure, Except.pure]

end Store

namespace Transaction

/-- A consistent store is restored from its snapshot, and from a document that lists the same rows in any other order.
The restored store has the same records, balances and snapshot, and any calls that follow are answered as on the
original and leave the same snapshots. -/
theorem snapshots_are_transparent {s : Store Ledger} (h : s.Consistent) :
    ∃ t, Store.restore s.snapshot.toValue = .ok t ∧
      (∀ poolId, t.pool? poolId = s.pool? poolId) ∧
      (∀ owner poolId, t.participant? owner poolId = s.participant? owner poolId) ∧
      (∀ account asset, t.balance account asset = s.balance account asset) ∧
      t.snapshot = s.snapshot ∧ t.commitment = s.commitment ∧
      (∀ calls, ∃ answers, s.transcript calls = .ok answers ∧ t.transcript calls = .ok answers ∧
        answers.length = calls.length) ∧
      ∀ pools participants balances, pools.Perm s.pools.rows → participants.Perm s.participants.rows →
        balances.Perm s.ledger.balances.rows →
          Store.restore (Store.document pools participants balances).toValue = .ok t := by
  have restored : Store.restore s.snapshot.toValue = .ok s := by
    rw [Store.snapshot_eq_document]
    exact Store.restore_document h (.refl _) (.refl _) (.refl _)
  refine ⟨s, restored, fun _ => rfl, fun _ _ => rfl, fun _ _ => rfl, rfl, rfl, fun calls => ?_,
    fun pools participants balances => Store.restore_document h⟩
  obtain ⟨answers, answered, length⟩ := s.exists_transcript_eq_ok calls
  exact ⟨answers, answered, answered, length⟩

/-- Two pools with two records are restored from their snapshot, also from one in reverse, and answer two requests as
before. -/
theorem snapshots_are_transparent_twoPools :
    ∃ s t, Store.empty.run twoPools = s ∧ s.Consistent ∧ s.pools.size = 2 ∧ s.participants.size = 2 ∧
      Store.restore s.snapshot.toValue = .ok t ∧ t.balance (treasuryAccount "p") "s" = 40 ∧
      Store.restore (Store.document s.pools.rows.reverse s.participants.rows.reverse
        s.ledger.balances.rows.reverse).toValue = .ok t ∧
      ∃ answers, s.transcript [⟨{}, 0, renewing⟩, ⟨{}, 0, requestOf "a" "harvest" 30 []⟩] = .ok answers ∧
        t.transcript [⟨{}, 0, renewing⟩, ⟨{}, 0, requestOf "a" "harvest" 30 []⟩] = .ok answers ∧
          answers.length = 2 := by
  have consistent : (Store.empty.run twoPools).Consistent := ⟨by decide +kernel, by decide +kernel⟩
  obtain ⟨t, restored, -, -, balances, -, -, answers, orders⟩ := snapshots_are_transparent consistent
  exact ⟨_, t, rfl, consistent, by decide +kernel, by decide +kernel, restored,
    (balances _ _).trans (by decide +kernel),
    orders _ _ _ (List.reverse_perm _) (List.reverse_perm _) (List.reverse_perm _), answers _⟩

end Transaction

end YieldPool
