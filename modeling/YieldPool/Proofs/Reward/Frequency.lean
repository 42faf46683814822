import YieldPool.Proofs.Reward.Order

/-!
# How often rewards are claimed

A harvest is paid by a rise of the debt. Where the ratio of the others' shares is positive, it changes nothing else: total,
compensation and shares stay, so a settlement afterwards finds the same due, and whether it succeeds does not depend on
the harvest (`onlyHarvested_of_attempt`). What one harvest leaves as it is, any number of them leave
(`onlyHarvested_run`), so that what a participant has been paid in the end is what a single settlement would have paid
(`claim_frequency_irrelevant`).
-/

namespace YieldPool.Reward

open PoolState Journal

/-- A settlement does not depend on the debt, as long as that is one that the shares have earned. -/
theorem settle_of_debt {s : Step} {debt : Int} (fits : Width.u128.Fits s.debt) (earned : s.debt ≤ s.due)
    (fits' : Width.u128.Fits debt) (earned' : debt ≤ s.due) {settled : Position} :
    settle { s with debt } = .ok settled ↔ settle s = .ok settled := by
  rw [settle_eq_ok_iff, settle_eq_ok_iff]
  constructor
  · rintro ⟨step, same, dueFits, -, h⟩
    exact ⟨{ step with debt := fits }, same, dueFits, earned, h⟩
  · rintro ⟨step, same, dueFits, -, h⟩
    exact ⟨{ step with debt := fits' }, same, dueFits, earned', h⟩

/-- All that harvests change are debts, each by what its participant has harvested; a settlement at a delay comes to the
same position before and after them. -/
structure OnlyHarvested (rewardRate delay : Int) (p q : PoolState) (log : List Entry) : Prop where
  totalShares : q.totalShares = p.totalShares
  compensation : q.compensation = p.compensation
  shares : ∀ who, (q.holding who).shares = (p.holding who).shares
  debt : ∀ who, (q.holding who).debt = (p.holding who).debt + harvested (ofMover who log)
  settles : ∀ who settled, settle (q.settlement rewardRate delay who) = .ok settled ↔
    settle (p.settlement rewardRate delay who) = .ok settled

namespace OnlyHarvested

variable {rewardRate delay : Int} {p next q : PoolState} {log log' : List Entry}

theorem refl (p : PoolState) : OnlyHarvested rewardRate delay p p [] :=
  ⟨rfl, rfl, fun _ => rfl, fun _ => (Int.add_zero _).symm, fun _ _ => Iff.rfl⟩

theorem trans (first : OnlyHarvested rewardRate delay p next log) (second : OnlyHarvested rewardRate delay next q log') :
    OnlyHarvested rewardRate delay p q (log ++ log') where
  totalShares := second.totalShares.trans first.totalShares
  compensation := second.compensation.trans first.compensation
  shares who := (second.shares who).trans (first.shares who)
  debt who := by
    have joined : harvested (ofMover who (log ++ log')) = harvested (ofMover who log) + harvested (ofMover who log') := by
      simp [harvested, ofMover]
    rw [second.debt, first.debt, joined, Int.add_assoc]
  settles who settled := (second.settles who settled).trans (first.settles who settled)

end OnlyHarvested

variable {rewardRate delay : Int} {p next : PoolState} {m : Move} {r : Rebalanced} {moves : List Move}

/-! ## One harvest -/

section Harvest

variable (claims : m.nextShares = none) (accepted : p.attempt rewardRate m = .ok (next, r))

include claims accepted

/-- A harvest leaves the total. -/
theorem totalShares_of_harvest : next.totalShares = p.totalShares := by
  rw [totalShares_of_attempt accepted, growth, claims, Option.getD_none, Int.sub_self, Int.add_zero]

variable (paid : 0 < ratio rewardRate (p.totalShares - (p.holding m.who).shares))

include paid

/-- A harvest keeps the accumulator and the total, so the compensation stays too. -/
theorem compensation_of_harvest : next.compensation = p.compensation := by
  have kept := accumulated_of_paid accepted paid
  unfold PoolState.accumulated accumulator at kept
  rw [totalShares_of_harvest claims accepted] at kept
  exact Int.add_left_cancel kept

/-- After a harvest the debt is all that the shares have earned. -/
theorem holding_of_harvest :
    next.holding m.who = ⟨m.who, (p.holding m.who).shares, (p.cycle rewardRate m).due⟩ := by
  have own : (p.destination (p.accumulated rewardRate m.delay) m).who = m.who := rfl
  rw [holding, holdings_of_paid accepted paid, Table.find?_insert, if_pos own, Option.getD_some, destination, claims]
  rfl

/-- A harvest leaves what a settlement at its delay or later comes to, for the participant and for everybody else. -/
theorem settle_of_harvest (latest : m.delay ≤ delay) (who : Text) (settled : Position) :
    settle (next.settlement rewardRate delay who) = .ok settled ↔
      settle (p.settlement rewardRate delay who) = .ok settled := by
  have total := totalShares_of_harvest claims accepted
  have compensation := compensation_of_harvest claims accepted paid
  by_cases own : m.who = who
  · subst own
    have same : next.settlement rewardRate delay m.who =
        { p.settlement rewardRate delay m.who with debt := (p.cycle rewardRate m).due } := by
      simp only [settlement, PoolState.cycle, Cycle.settlement, holding_of_harvest claims accepted paid, total,
        compensation]
    obtain ⟨admissible, -, -⟩ := attempt_eq_ok_iff.mp accepted
    have rate : 0 ≤ ratio rewardRate p.totalShares :=
      ratio_nonneg admissible.rewardRate_fits.1 admissible.totalShares_fits.1
    have later : (p.cycle rewardRate m).due ≤ (p.settlement rewardRate delay m.who).due :=
      p.credited_later rate admissible.shares_fits.1 latest
    rw [same]
    exact settle_of_debt admissible.debt_fits (Int.le_trans admissible.debt_le later) admissible.due_fits later
  · have same : next.settlement rewardRate delay who = p.settlement rewardRate delay who := by
      simp only [settlement, PoolState.cycle, Cycle.settlement, holding_of_attempt accepted own, total, compensation]
    rw [same]

/-- A harvest changes nothing but the debt of who harvests. -/
theorem onlyHarvested_of_attempt (latest : m.delay ≤ delay) :
    OnlyHarvested rewardRate delay p next [⟨m, r⟩] where
  totalShares := totalShares_of_harvest claims accepted
  compensation := compensation_of_harvest claims accepted paid
  shares who := by
    by_cases own : m.who = who
    · subst own
      rw [holding_of_harvest claims accepted paid]
    · rw [holding_of_attempt accepted own]
  debt who := by
    by_cases own : m.who = who
    · subst own
      obtain ⟨-, rfl, -⟩ := attempt_eq_ok_iff.mp accepted
      have log : harvested (ofMover m.who [⟨m, (p.cycle rewardRate m).outcome⟩]) =
          (p.cycle rewardRate m).due - (p.holding m.who).debt := by
        simp [harvested, ofMover, Cycle.outcome, PoolState.cycle]
      rw [holding_of_harvest claims accepted paid, log]
      show (p.cycle rewardRate m).due = _
      omega
    · rw [holding_of_attempt accepted own]
      simp [harvested, ofMover, own]
  settles := settle_of_harvest claims accepted paid latest

end Harvest

/-! ## Any number of harvests -/

/-- Harvests that all succeed, where the ratio of the others' shares is positive, change nothing but debts. Each leaves
total and shares, so the ratios of the others' shares are what they were. -/
theorem onlyHarvested_run (claims : ∀ m ∈ moves, m.nextShares = none) (latest : ∀ m ∈ moves, m.delay ≤ delay)
    (paid : ∀ m ∈ moves, 0 < ratio rewardRate (p.totalShares - (p.holding m.who).shares))
    (succeed : p.AllSucceed rewardRate moves) :
    OnlyHarvested rewardRate delay p (p.run rewardRate moves) (p.journal rewardRate moves) := by
  induction moves generalizing p with
  | nil => exact OnlyHarvested.refl p
  | cons m rest ih =>
    obtain ⟨claimsFirst, claims⟩ := List.forall_mem_cons.mp claims
    obtain ⟨latestFirst, latest⟩ := List.forall_mem_cons.mp latest
    obtain ⟨paidFirst, paid⟩ := List.forall_mem_cons.mp paid
    obtain ⟨⟨r, first⟩, succeed⟩ := List.forall_mem_cons.mp succeed
    cases accepted : p.attempt rewardRate m with
    | error e =>
      rw [accepted] at first
      cases first
    | ok x =>
      obtain ⟨next, r⟩ := x
      have one := onlyHarvested_of_attempt claimsFirst accepted paidFirst latestFirst
      have paid : ∀ m ∈ rest, 0 < ratio rewardRate (next.totalShares - (next.holding m.who).shares) := by
        intro m member
        rw [one.totalShares, one.shares]
        exact paid m member
      rw [after_of_ok accepted] at succeed
      rw [journal_cons_of_ok accepted, run, List.foldl_cons, after_of_ok accepted]
      exact one.trans (ih claims latest paid succeed)

/-- In any pool, let anybody harvest any number of times up to a delay, each time successfully and with a positive ratio
of the others' shares. In the end the total, the compensation and everybody's shares are what they were. A settlement at
the delay succeeds for a participant exactly if it would have succeeded before, and what it pays, with all that the
participant has harvested, is what it would have paid before. -/
theorem claim_frequency_irrelevant (claims : ∀ m ∈ moves, m.nextShares = none) (latest : ∀ m ∈ moves, m.delay ≤ delay)
    (paid : ∀ m ∈ moves, 0 < ratio rewardRate (p.totalShares - (p.holding m.who).shares))
    (succeed : p.AllSucceed rewardRate moves) :
    (p.run rewardRate moves).totalShares = p.totalShares ∧ (p.run rewardRate moves).compensation = p.compensation ∧
      (∀ who, ((p.run rewardRate moves).holding who).shares = (p.holding who).shares) ∧
      (∀ who, (∃ settled, settle ((p.run rewardRate moves).settlement rewardRate delay who) = .ok settled) ↔
        ∃ settled, settle (p.settlement rewardRate delay who) = .ok settled) ∧
      ∀ who settled single, settle ((p.run rewardRate moves).settlement rewardRate delay who) = .ok settled →
        settle (p.settlement rewardRate delay who) = .ok single →
        harvested (ofMover who (p.journal rewardRate moves)) +
            (settled.debt - ((p.run rewardRate moves).holding who).debt) =
          single.debt - (p.holding who).debt := by
  have only := onlyHarvested_run claims latest paid succeed
  refine ⟨only.totalShares, only.compensation, only.shares, fun who => exists_congr (only.settles who), ?_⟩
  intro who settled single afterwards before
  have same : settled = single := by
    rw [only.settles who, before] at afterwards
    exact (Except.ok.inj afterwards).symm
  rw [same, only.debt who]
  omega

/-- Claims of three stakers, the second of whom claims three times, twice in one period. -/
def eagerClaims : List Move := [⟨"b", none, 4⟩, ⟨"a", none, 4⟩, ⟨"b", none, 4⟩, ⟨"c", none, 6⟩, ⟨"b", none, 7⟩]

/-- The second staker gets 278 units by the ninth period, of which three claims have paid out 212. -/
theorem claim_frequency_irrelevant_eagerClaims :
    threeStakers.AllSucceed 100 eagerClaims ∧
      (∀ m ∈ eagerClaims, 0 < ratio 100 (threeStakers.totalShares - (threeStakers.holding m.who).shares)) ∧
      (∃ settled, settle ((threeStakers.run 100 eagerClaims).settlement 100 9 "b") = .ok settled ∧
        harvested (ofMover "b" (threeStakers.journal 100 eagerClaims)) +
          (settled.debt - ((threeStakers.run 100 eagerClaims).holding "b").debt) = 278) ∧
      harvested (ofMover "b" (threeStakers.journal 100 eagerClaims)) = 212 := by
  have claims : ∀ m ∈ eagerClaims, m.nextShares = none := by decide
  have latest : ∀ m ∈ eagerClaims, m.delay ≤ 9 := by decide
  have paid : ∀ m ∈ eagerClaims, 0 < ratio 100 (threeStakers.totalShares - (threeStakers.holding m.who).shares) := by
    decide +kernel
  have succeed : threeStakers.AllSucceed 100 eagerClaims := by decide +kernel
  have single : settle (threeStakers.settlement 100 9 "b") = .ok ⟨20, 285, -7 * 10 ^ 17⟩ := by decide +kernel
  obtain ⟨-, -, -, settles, pays⟩ := claim_frequency_irrelevant claims latest paid succeed
  obtain ⟨settled, afterwards⟩ := (settles "b").mpr ⟨_, single⟩
  have whole := pays "b" settled _ afterwards single
  exact ⟨succeed, paid, ⟨settled, afterwards, whole⟩, by decide +kernel⟩

end YieldPool.Reward
