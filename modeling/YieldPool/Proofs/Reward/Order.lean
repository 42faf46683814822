import YieldPool.Proofs.Reward.ProRata

/-!
# The order of moves within a period

Where the ratio of the others' shares is positive, a move keeps what one share has been credited with
(`accumulated_of_paid`). So what a move of one participant comes to does not depend on the moves of others at the same
delay: it is the same in the pool before all of them. Moves of distinct participants within one period then come to sums
and insertions (`ComesTo`), which are the same in any order (`order_within_period_irrelevant`).
-/

namespace YieldPool.Reward

open PoolState Journal

/-- Who made a successful move, and what it harvested. -/
def Entry.payout (e : Entry) : Text × Int := (e.move.who, e.outcome.harvested)

namespace PoolState

/-- What one share of a pool has been credited with after a number of periods. -/
def accumulated (p : PoolState) (rewardRate delay : Int) : Int :=
  accumulator (ratio rewardRate p.totalShares) delay p.compensation

/-- By how much a move makes the total grow. -/
def growth (p : PoolState) (m : Move) : Int :=
  m.nextShares.getD (p.holding m.who).shares - (p.holding m.who).shares

/-- The holding that a move leads to in a pool where one share has been credited with a number. -/
def destination (p : PoolState) (accumulated : Int) (m : Move) : Holding :=
  ⟨m.who, m.nextShares.getD (p.holding m.who).shares,
    accumulated * m.nextShares.getD (p.holding m.who).shares / precision⟩

/-- What a move harvests in a pool where one share has been credited with a number. -/
def payout (p : PoolState) (accumulated : Int) (m : Move) : Text × Int :=
  (m.who, accumulated * (p.holding m.who).shares / precision - (p.holding m.who).debt)

/-- At each move of a list, one after the other, the ratio of the others' shares is positive. -/
def OthersPaid (p : PoolState) (rewardRate : Int) : List Move → Prop
  | [] => True
  | m :: rest =>
    0 < ratio rewardRate (p.totalShares - (p.holding m.who).shares) ∧ (p.after rewardRate m).OthersPaid rewardRate rest

/-- Every move of a list succeeds, one after the other. -/
def AllSucceed (p : PoolState) (rewardRate : Int) (moves : List Move) : Prop :=
  ∀ o ∈ p.outcomes rewardRate moves, ∃ r, o = .ok r

instance decidableOthersPaid (p : PoolState) (rewardRate : Int) :
    (moves : List Move) → Decidable (p.OthersPaid rewardRate moves)
  | [] => isTrue trivial
  | m :: rest =>
    have := decidableOthersPaid (p.after rewardRate m) rewardRate rest
    inferInstanceAs (Decidable (_ ∧ _))

instance (p : PoolState) (rewardRate : Int) (moves : List Move) : Decidable (p.AllSucceed rewardRate moves) :=
  decidable_of_iff (∀ o ∈ p.outcomes rewardRate moves, o.toOption.isSome = true) <| forall₂_congr fun o _ => by
    cases o <;> simp [Except.toOption]

variable {rewardRate delay : Int} {p next : PoolState} {m : Move} {r : Rebalanced}

/-! ## One move -/

/-- Where the ratio of the others' shares is positive, a move keeps what one share has been credited with. -/
theorem accumulated_of_paid (accepted : p.attempt rewardRate m = .ok (next, r))
    (paid : 0 < ratio rewardRate (p.totalShares - (p.holding m.who).shares)) :
    next.accumulated rewardRate m.delay = p.accumulated rewardRate m.delay := by
  obtain ⟨-, rfl, rfl⟩ := attempt_eq_ok_iff.mp accepted
  exact Cycle.nextAccumulated_of_ne_zero (c := p.cycle rewardRate m) (Int.ne_of_gt paid)

/-- A successful move changes the total by the shares that the mover gains. -/
theorem totalShares_of_attempt (accepted : p.attempt rewardRate m = .ok (next, r)) :
    next.totalShares = p.totalShares + p.growth m := by
  obtain ⟨-, rfl, rfl⟩ := attempt_eq_ok_iff.mp accepted
  show p.totalShares - (p.holding m.who).shares + m.nextShares.getD (p.holding m.who).shares = _
  unfold growth
  omega

/-- Where the ratio of the others' shares is positive, a move leaves the mover's new shares with what they have been
credited with as debt. -/
theorem holdings_of_paid (accepted : p.attempt rewardRate m = .ok (next, r))
    (paid : 0 < ratio rewardRate (p.totalShares - (p.holding m.who).shares)) :
    next.holdings = p.holdings.insert (p.destination (p.accumulated rewardRate m.delay) m) := by
  rw [← accumulated_of_paid accepted paid]
  obtain ⟨-, rfl, rfl⟩ := attempt_eq_ok_iff.mp accepted
  rfl

/-- A successful move pays what its shares have earned by then over the mover's debt. -/
theorem payout_of_attempt (accepted : p.attempt rewardRate m = .ok (next, r)) :
    (Entry.mk m r).payout = p.payout (p.accumulated rewardRate m.delay) m := by
  obtain ⟨-, rfl, rfl⟩ := attempt_eq_ok_iff.mp accepted
  rfl

/-- A move leaves the holdings of the others. -/
theorem holding_of_attempt (accepted : p.attempt rewardRate m = .ok (next, r)) {other : Text} (ne : m.who ≠ other) :
    next.holding other = p.holding other := by
  obtain ⟨-, rfl, rfl⟩ := attempt_eq_ok_iff.mp accepted
  rw [holding_store, if_neg ne]

end PoolState

/-! ## All moves of a period -/

/-- What moves of distinct participants at one delay come to, told by the pool before all of them: the state after them
and the journal. -/
structure ComesTo (rewardRate delay : Int) (p : PoolState) (moves : List Move) (q : PoolState) (log : List Entry) :
    Prop where
  totalShares : q.totalShares = p.totalShares + (moves.map p.growth).sum
  accumulated : q.accumulated rewardRate delay = p.accumulated rewardRate delay
  holdings : q.holdings = p.holdings.insertAll (moves.map (p.destination (p.accumulated rewardRate delay)))
  payouts : log.map Entry.payout = moves.map (p.payout (p.accumulated rewardRate delay))

variable {rewardRate delay : Int} {p q : PoolState} {moves others : List Move} {log : List Entry}

/-- A move before moves of others that come to something comes to what it comes to with theirs. The others come to the
same before that move and after it. -/
theorem ComesTo.cons {next : PoolState} {m : Move} {r : Rebalanced} (period : m.delay = delay)
    (accepted : p.attempt rewardRate m = .ok (next, r))
    (paid : 0 < ratio rewardRate (p.totalShares - (p.holding m.who).shares)) (fresh : m.who ∉ moves.map Move.who)
    (rest : ComesTo rewardRate delay next moves q log) : ComesTo rewardRate delay p (m :: moves) q (⟨m, r⟩ :: log) := by
  subst period
  have kept := accumulated_of_paid accepted paid
  have holding : ∀ m' ∈ moves, next.holding m'.who = p.holding m'.who := fun m' member =>
    holding_of_attempt accepted fun same => fresh (same ▸ List.mem_map_of_mem member)
  have growths : moves.map next.growth = moves.map p.growth := List.map_congr_left fun m' member => by
    rw [growth, holding m' member, growth]
  have destinations : moves.map (next.destination (p.accumulated rewardRate m.delay)) =
      moves.map (p.destination (p.accumulated rewardRate m.delay)) := List.map_congr_left fun m' member => by
    rw [destination, holding m' member, destination]
  have payouts : moves.map (next.payout (p.accumulated rewardRate m.delay)) =
      moves.map (p.payout (p.accumulated rewardRate m.delay)) := List.map_congr_left fun m' member => by
    rw [payout, holding m' member, payout]
  constructor
  · rw [rest.totalShares, totalShares_of_attempt accepted, growths, List.map_cons, List.sum_cons, Int.add_assoc]
  · rw [rest.accumulated, kept]
  · rw [rest.holdings, kept, destinations, holdings_of_paid accepted paid]
    rfl
  · rw [List.map_cons, List.map_cons, rest.payouts, kept, payouts, payout_of_attempt accepted]

/-- Moves of distinct participants at one delay, all of which succeed where the ratio of the others' shares is positive,
come to sums and insertions over the pool before them. -/
theorem comesTo_run (period : ∀ m ∈ moves, m.delay = delay) (distinct : (moves.map Move.who).Nodup)
    (succeed : p.AllSucceed rewardRate moves) (paid : p.OthersPaid rewardRate moves) :
    ComesTo rewardRate delay p moves (p.run rewardRate moves) (p.journal rewardRate moves) := by
  induction moves generalizing p with
  | nil => exact ⟨(Int.add_zero _).symm, rfl, rfl, rfl⟩
  | cons m rest ih =>
    obtain ⟨now, later⟩ := List.forall_mem_cons.mp period
    obtain ⟨fresh, distinct⟩ := List.nodup_cons.mp distinct
    obtain ⟨⟨r, first⟩, others⟩ := List.forall_mem_cons.mp succeed
    obtain ⟨paidFirst, paidOthers⟩ := paid
    cases accepted : p.attempt rewardRate m with
    | error e =>
      rw [accepted] at first
      cases first
    | ok x =>
      have come := ih later distinct others paidOthers
      rw [after_of_ok accepted] at come
      have whole := come.cons now accepted paidFirst fresh
      rw [journal_cons_of_ok accepted, run, List.foldl_cons, after_of_ok accepted]
      exact whole

/-- What moves come to is one pool, in whatever order they are made. -/
theorem ComesTo.eq_of_perm {q' : PoolState} {log' : List Entry} (come : ComesTo rewardRate delay p moves q log)
    (come' : ComesTo rewardRate delay p others q' log') (perm : moves.Perm others)
    (distinct : (moves.map Move.who).Nodup) : q = q' := by
  have total : q.totalShares = q'.totalShares := by
    rw [come.totalShares, come'.totalShares, (perm.map p.growth).sum_eq]
  have compensation : q.compensation = q'.compensation := by
    have accumulated := come.accumulated.trans come'.accumulated.symm
    unfold PoolState.accumulated accumulator at accumulated
    rw [total] at accumulated
    exact Int.add_left_cancel accumulated
  have holdings : q.holdings = q'.holdings := by
    rw [come.holdings, come'.holdings]
    refine Table.insertAll_perm _ (perm.map _) ?_
    rw [List.map_map]
    exact distinct
  cases q
  cases q'
  cases total
  cases compensation
  cases holdings
  rfl

/-- What a participant harvests, told by the payouts. -/
theorem harvested_ofMover (log : List Entry) (who : Text) :
    harvested (ofMover who log) =
      (((log.map Entry.payout).filter fun payout => decide (payout.1 = who)).map Prod.snd).sum := by
  rw [harvested, ofMover, List.filter_map, List.map_map]
  rfl

/-- In any pool, let moves of distinct participants at one delay be made in two orders. Where all of them succeed in
both, and at each of them the ratio of the others' shares is positive, both orders end in the same pool, with the same
total, compensation and holdings, and each participant harvests the same. -/
theorem order_within_period_irrelevant (perm : moves.Perm others) (period : ∀ m ∈ moves, m.delay = delay)
    (distinct : (moves.map Move.who).Nodup) (succeed : p.AllSucceed rewardRate moves)
    (succeed' : p.AllSucceed rewardRate others) (paid : p.OthersPaid rewardRate moves)
    (paid' : p.OthersPaid rewardRate others) :
    p.run rewardRate moves = p.run rewardRate others ∧
      ∀ who, harvested (ofMover who (p.journal rewardRate moves)) =
        harvested (ofMover who (p.journal rewardRate others)) := by
  have period' : ∀ m ∈ others, m.delay = delay := fun m member => period m (perm.mem_iff.mpr member)
  have come := comesTo_run period distinct succeed paid
  have come' := comesTo_run period' ((perm.map Move.who).nodup_iff.mp distinct) succeed' paid'
  refine ⟨come.eq_of_perm come' perm distinct, fun who => ?_⟩
  rw [harvested_ofMover, harvested_ofMover, come.payouts, come'.payouts]
  exact (((perm.map _).filter _).map _).sum_eq

/-- Three stakers of a pool with a compensation. -/
def threeStakers : PoolState :=
  ⟨60, -7 * 10 ^ 17, ⟨[⟨"a", 10, 3⟩, ⟨"b", 20, 7⟩, ⟨"c", 30, 180⟩], by decide⟩⟩

/-- One staker leaves, one claims, and another comes. -/
def leavingClaimingComing : List Move := [⟨"a", some 0, 4⟩, ⟨"b", none, 4⟩, ⟨"d", some 25, 4⟩]

/-- The same moves with the newcomer first. -/
def comingLeavingClaiming : List Move := [⟨"d", some 25, 4⟩, ⟨"a", some 0, 4⟩, ⟨"b", none, 4⟩]

/-- In both orders the pool ends the same and the claim pays 112 units. -/
theorem order_within_period_irrelevant_threeStakers :
    leavingClaimingComing.Perm comingLeavingClaiming ∧
      threeStakers.run 100 leavingClaimingComing = threeStakers.run 100 comingLeavingClaiming ∧
      harvested (ofMover "b" (threeStakers.journal 100 leavingClaimingComing)) = 112 ∧
      harvested (ofMover "b" (threeStakers.journal 100 comingLeavingClaiming)) = 112 := by
  have perm : leavingClaimingComing.Perm comingLeavingClaiming := by decide
  have period : ∀ m ∈ leavingClaimingComing, m.delay = 4 := by decide
  have succeed : threeStakers.AllSucceed 100 leavingClaimingComing := by decide +kernel
  obtain ⟨same, payouts⟩ := order_within_period_irrelevant perm period (by decide) succeed (by decide +kernel)
    (by decide +kernel) (by decide +kernel)
  have claimed : harvested (ofMover "b" (threeStakers.journal 100 leavingClaimingComing)) = 112 := by decide +kernel
  exact ⟨perm, same, claimed, (payouts "b").symm.trans claimed⟩

end YieldPool.Reward
