import YieldPool.Proofs.Handler.Closing
import YieldPool.Proofs.Json.Compact
import YieldPool.Proofs.Transaction.Batch
import YieldPool.Proofs.Transaction.Commitment

/-!
# Closing is never blocked

In every store that requests and credits make from the empty one, the books are in order, whoever has a debt has shares,
and the names of pools and owners are short and well-formed enough to be given in a request (`Store.Orderly`). So an
owner can always ask for a record or a pool to be closed, and is refused only if there are shares
(`closing_is_never_blocked`).
-/

namespace YieldPool

/-- A request asks for one operation on a pool. -/
structure Request.Asks (r : Request) (config : Config) (clock : Int) (sender poolId : Text) (action : Action) :
    Prop where
  sender : Operation.requireText "tx_sender" Operation.longestName r.sender = .ok sender
  time : ∃ now, Transaction.timeOf clock r.now = .ok now
  operations : ∃ entries, Operation.parse config r.operations = .ok [⟨poolId, action, entries⟩]

/-- A consistent store accepts a request for one operation exactly if the operation is handled. -/
theorem Request.Asks.accepted_iff {r : Request} {config : Config} {clock : Int} {sender poolId : Text}
    {action : Action} (asks : r.Asks config clock sender poolId action) {s : Store Ledger}
    (consistent : s.Consistent) :
    ∃ now entries, ∀ t, (∃ effects, Transaction.apply config clock r s = .ok (t, .accepted effects)) ↔
      ∃ o, Handler.ofAction action ⟨sender, now, config⟩ ⟨poolId, action, entries⟩ s = .ok (t, o) := by
  obtain ⟨named, ⟨now, timed⟩, entries, parsed⟩ := asks
  refine ⟨now, entries, fun t => ?_⟩
  constructor
  · rintro ⟨effects, accepted⟩
    obtain ⟨_, named', _, timed', _, parsed', ran⟩ := (Transaction.apply_eq_accepted_iff consistent).mp accepted
    obtain rfl := Except.ok.inj (named.symm.trans named')
    obtain rfl := Except.ok.inj (timed.symm.trans timed')
    obtain rfl := Except.ok.inj (parsed.symm.trans parsed')
    obtain ⟨s₁, effect, stepped, _, ended, -⟩ := Transaction.run_cons_eq_ok_iff.mp ran
    obtain ⟨rfl, -⟩ := Transaction.run_nil_eq_ok_iff.mp ended
    obtain ⟨o, handled, -⟩ := Transaction.step_eq_ok_iff.mp stepped
    exact ⟨o, handled⟩
  · rintro ⟨o, handled⟩
    have stepped : Transaction.step ⟨sender, now, config⟩ s ⟨poolId, action, entries⟩ =
        .ok (t, ⟨action, poolId, sender, o⟩) := Transaction.step_eq_ok_iff.mpr ⟨o, handled, rfl⟩
    have ran := Transaction.run_cons_eq_ok_iff.mpr
      ⟨t, _, stepped, [], Transaction.run_nil_eq_ok_iff.mpr ⟨rfl, rfl⟩, rfl⟩
    exact ⟨_, (Transaction.apply_eq_accepted_iff consistent).mpr
      ⟨sender, named, now, timed, _, parsed, ran⟩⟩

/-! ## Stores in order -/

/-- A name is short enough to be given in a request. -/
def Text.Short (name : Text) : Prop := name.length ≤ Operation.longestName

/-- The books are in order, debts have shares, and pools and owners have names that can be given in a request. -/
structure Store.Orderly (s : Store Ledger) : Prop where
  consistent : s.Consistent
  debts : s.DebtsHaveShares
  pools : ∀ p ∈ s.pools.rows, p.Named Text.Short
  participants : ∀ q ∈ s.participants.rows, q.Named Text.Short
  poolIds : ∀ poolId p, s.pool? poolId = some p → poolId.Short

namespace Store

theorem orderly_empty : empty.Orderly where
  consistent := consistent_empty
  debts := debtsHaveShares_empty
  pools _ member := absurd member List.not_mem_nil
  participants _ member := absurd member List.not_mem_nil
  poolIds poolId p found := by
    rw [pool?_empty] at found
    cases found

/-- The pool of a participant has a short name. -/
theorem Orderly.short_poolId {s : Store Ledger} (h : s.Orderly) {q : ParticipantRecord}
    (member : q ∈ s.participants.rows) : q.poolId.Short := by
  obtain ⟨p, found⟩ := (consistent_iff.mp h.consistent).2 q member
  exact h.poolIds q.poolId p found

end Store

/-- Every operation of a request keeps a store in order. -/
theorem Handler.orderly_ofAction {c : Context} {op : Operation} {s t : Store Ledger} {o : Effect.Outcome} {a : Action}
    (acting : c.sender.Short) (wellFormed : op.WellFormed) (short : op.poolId.Short) (h : s.Orderly)
    (handled : ofAction a c op s = .ok (t, o)) : t.Orderly := by
  obtain ⟨pools, participants⟩ := named_records acting wellFormed
    (fun owner given => (Operation.requireText_eq_ok_iff.mp given).2.2) h.pools h.participants handled
  refine ⟨consistent_ofAction h.consistent handled, debtsHaveShares_ofAction h.debts handled, pools, participants,
    fun poolId p found => ?_⟩
  cases before : s.pool? poolId with
  | none =>
    obtain ⟨rfl, -⟩ := opened_ofAction handled before found
    exact short
  | some q => exact h.poolIds poolId q before

namespace Store

/-- Every event keeps a store in order. -/
theorem orderly_after {s : Store Ledger} (h : s.Orderly) (e : Event) : (s.after e).Orderly := by
  cases e with
  | request config clock r =>
    show (s.afterRequest config clock r).Orderly
    rcases s.afterRequest_cases config clock r with ⟨same, -⟩ | applied
    · rwa [same]
    · obtain ⟨sender, named, now, -, ops, parsed, ran, -⟩ := Transaction.applyOrThrow_eq_ok_iff.mp applied
      have acting : Text.Short sender := (Operation.requireText_eq_ok_iff.mp named).2.2
      have read := Operation.forall_mem_of_parse (P := fun op => op.WellFormed ∧ op.poolId.Short)
        (fun _ _ _ read => ⟨Operation.wellFormed_of_ofValue read, (Operation.poolId_of_ofValue read).2⟩) parsed
      exact Transaction.run_keeps (I := Orderly) (fun _ _ _ _ allowed h handled =>
        Handler.orderly_ofAction acting allowed.1 allowed.2 h handled) read h ran
  | credit account asset amount =>
    show (s.afterCredit account asset amount).Orderly
    obtain ⟨ledger, same, -⟩ := s.afterCredit_cases account asset amount
    rw [same]
    exact ⟨h.consistent, h.debts, h.pools, h.participants, h.poolIds⟩

/-- Whatever happens, the store stays orderly. -/
theorem orderly_run (events : List Event) : (empty.run events).Orderly :=
  run_keeps (I := Orderly) (fun _ e (_ : True) h => orderly_after h e) (fun _ _ => trivial) orderly_empty

end Store

/-! ## Plain requests -/

/-- The request by which somebody closes a record or a pool, now. -/
def closing (owner poolId : Text) (action : Action) : Request where
  sender := .text owner
  now := .null
  operations := .list [operationOf poolId action.name []]

namespace Operation

/-- The members of an operation without fields of its own, in order of their names. -/
def plainMembers (poolId action : Text) : List (Text × Text) :=
  [("action", action), ("module", "Farm"), ("pool_id", poolId), ("version", "0.1")]

/-- The document of an operation without fields of its own. -/
def plainDocument (poolId action : Text) : Json := .object ((plainMembers poolId action).map fun m => (m.1, .text m.2))

/-- An operation without fields of its own is written as a plain document. -/
theorem toJson_operationOf (poolId action : Text) :
    (operationOf poolId action []).toJson = .ok (plainDocument poolId action) := rfl

/-- An operation without fields of its own is small. -/
theorem size_operationOf_le {poolId : Text} (wellFormed : poolId.isWellFormed = true) (short : poolId.Short)
    (a : Action) (index : Nat) : ∃ n, size index (entriesFor poolId a.name []) = .ok n ∧ n ≤ 64000 := by
  have named : a.name.isWellFormed = true ∧ a.name.length ≤ longestWord := by cases a <;> decide
  have clean : (operationOf poolId a.name []).refusal? = none := by
    simp [operationOf, entriesFor, Value.refusal?, Value.entriesRefusal?, wellFormed, named.1]
  have canonical := Value.canonicalBytes_eq_ok_iff.mpr ⟨clean, _, toJson_operationOf poolId a.name, rfl⟩
  refine ⟨_, size_eq_ok_iff.mpr ⟨_, canonical, rfl⟩, ?_⟩
  have bytes := Text.length_utf8_le ((plainDocument poolId a.name).render .compact 0)
  have written := Json.length_render_texts_le 0 (plainMembers poolId a.name)
  have total : ((plainMembers poolId a.name).map fun m => 6 * (m.1.length + m.2.length) + 6).sum =
      6 * (6 + a.name.length) + 6 + (6 * (6 + 4) + 6 + (6 * (7 + poolId.length) + 6 + (6 * (7 + 3) + 6 + 0))) := rfl
  have long := named.2
  unfold Text.Short longestName at short
  unfold longestWord at long
  unfold plainDocument at bytes ⊢
  omega

/-- An operation without fields of its own is read. -/
theorem exists_parse_operationOf {poolId : Text} (ne : poolId ≠ []) (wellFormed : poolId.isWellFormed = true)
    (short : poolId.Short) (a : Action) :
    ∃ entries, parse {} (.list [operationOf poolId a.name []]) = .ok [⟨poolId, a, entries⟩] := by
  obtain ⟨n, sized, small⟩ := size_operationOf_le wellFormed short a 0
  have word : a.name ≠ [] ∧ a.name.length ≤ longestWord ∧ Action.ofName? a.name = some a := by cases a <;> decide
  have allowed : unknownFields a (entriesFor poolId a.name []) = [] := rfl
  have few : (1 : Int) ≤ Config.maxOps {} := by decide
  have read : ∃ entries, ofValue {} 0 (operationOf poolId a.name []) = .ok ⟨poolId, a, entries⟩ := by
    simp only [ofValue, bind_eq_ok_iff, entriesOf_eq_ok_iff, require_eq_ok_iff, orRefuse_eq_ok_iff,
      requireText_eq_ok_iff, exists_const, pure, Except.pure, Except.ok.injEq]
    exact ⟨_, _, rfl, n, sized, by exact_mod_cast small, "Farm", ⟨rfl, by decide, by decide⟩, rfl, "0.1",
      ⟨rfl, by decide, by decide⟩, rfl, a.name, ⟨rfl, word.1, word.2.1⟩, a, word.2.2, allowed, poolId,
      ⟨rfl, ne, short⟩, rfl⟩
  obtain ⟨entries, read⟩ := read
  exact ⟨entries, parse_list_eq_ok_iff.mpr ⟨few, ofValues_cons_eq_ok_iff.mpr ⟨_, read, [], rfl, rfl⟩⟩⟩

end Operation

/-- Whoever has a short name can ask for a pool with a short and well-formed name. -/
theorem asks_closing {owner poolId : Text} (owner_ne : owner ≠ []) (ownerShort : owner.Short) (ne : poolId ≠ [])
    (wellFormed : poolId.isWellFormed = true) (short : poolId.Short) (clock : Int) (a : Action) :
    (closing owner poolId a).Asks {} clock owner poolId a where
  sender := Operation.requireText_eq_ok_iff.mpr ⟨rfl, owner_ne, ownerShort⟩
  time := ⟨clock, rfl⟩
  operations := Operation.exists_parse_operationOf ne wellFormed short a

/-- Closing is never blocked, in any store that requests and credits make from the empty one. Records without shares
have no debt. A request for nothing but the closing of its owner's record is accepted exactly if the record holds no
shares; a request for nothing but the closing of the sender's pool exactly if the pool's total is zero, and then no
record in the pool is left. And the owner of a record or a pool can always send such a request. -/
theorem closing_is_never_blocked (events : List Event) :
    (∀ q ∈ (Store.empty.run events).participants.rows,
      (q.shares = 0 → q.debt = 0) ∧
      (∀ (config : Config) (clock : Int) (r : Request), r.Asks config clock q.owner q.poolId .closeParticipant →
        ((∃ t effects, Transaction.apply config clock r (Store.empty.run events) = .ok (t, .accepted effects)) ↔
          q.shares = 0)) ∧
      ∀ clock, (closing q.owner q.poolId .closeParticipant).Asks {} clock q.owner q.poolId .closeParticipant) ∧
    ∀ p ∈ (Store.empty.run events).pools.rows,
      (∀ (config : Config) (clock : Int) (r : Request), r.Asks config clock p.owner p.poolId .closePool →
        ((∃ t effects, Transaction.apply config clock r (Store.empty.run events) = .ok (t, .accepted effects)) ↔
          p.totalShares = 0) ∧
        ∀ t effects, Transaction.apply config clock r (Store.empty.run events) = .ok (t, .accepted effects) →
          ∀ q ∈ t.participants.rows, q.poolId ≠ p.poolId) ∧
      ∀ clock, (closing p.owner p.poolId .closePool).Asks {} clock p.owner p.poolId .closePool := by
  have orderly := Store.orderly_run events
  constructor
  · intro q member
    have found : (Store.empty.run events).participant? q.owner q.poolId = some q :=
      Table.find?_eq_some_iff.mpr ⟨member, rfl⟩
    refine ⟨fun none => ?_, fun config clock r asks => ?_, fun clock => ?_⟩
    · exact (ParticipantRecord.isClosable_iff.mp ((orderly.debts.isClosable_iff found).mpr none)).2
    · obtain ⟨now, entries, accepted⟩ := asks.accepted_iff orderly.consistent
      simp only [accepted]
      exact Handler.exists_closeParticipant_iff orderly.debts found
    · obtain ⟨wellFormed, ownerShort⟩ := orderly.participants q member
      exact asks_closing q.owner_ne ownerShort q.poolId_ne wellFormed (orderly.short_poolId member) clock _
  · intro p member
    have found : (Store.empty.run events).pool? p.poolId = some p := Table.find?_eq_some_iff.mpr ⟨member, rfl⟩
    refine ⟨fun config clock r asks => ?_, fun clock => ?_⟩
    · obtain ⟨now, entries, accepted⟩ := asks.accepted_iff orderly.consistent
      constructor
      · simp only [accepted]
        exact Handler.exists_closePool_iff orderly.consistent orderly.debts found rfl
      · intro t effects closed
        obtain ⟨o, handled⟩ := (accepted t).mp ⟨effects, closed⟩
        exact Handler.ne_poolId_of_closePool handled
    · obtain ⟨wellFormed, ownerShort, -, -⟩ := orderly.pools p member
      exact asks_closing p.owner_ne ownerShort p.poolId_ne wellFormed (orderly.poolIds p.poolId p found) clock _

/-- A pool with two records, of which one holds shares. -/
def entering : List Event :=
  [.credit "a" "s" 100, .credit "o" "r" 100, .request {} 0 (requestOf "o" "initialize_pool" 0 (openingFor "s" "r")),
    .request {} 0 (requestOf "o" "seed" 0 [(.text "amount", .int 100)]),
    .request {} 0 (requestOf "a" "stake" 5 [(.text "amount", .int 40)]),
    .request {} 0 (requestOf "b" "initialize_participant" 15 [])]

/-- The shares are taken back. -/
def leaving : Event := .request {} 0 (requestOf "a" "unstake" 35 [(.text "amount", .int 40)])

/-- The empty record is closed, the pool is not as long as one record has shares, and once they are taken back it is
closed with all its records. -/
theorem closing_is_never_blocked_entering_leaving :
    (∃ t effects, Transaction.apply {} 50 (closing "b" "p" .closeParticipant) (Store.empty.run entering) =
        .ok (t, .accepted effects)) ∧
      (¬∃ t effects, Transaction.apply {} 50 (closing "o" "p" .closePool) (Store.empty.run entering) =
        .ok (t, .accepted effects)) ∧
      ∃ t effects, Transaction.apply {} 50 (closing "o" "p" .closePool) (Store.empty.run (entering ++ [leaving])) =
        .ok (t, .accepted effects) ∧ ∀ q ∈ t.participants.rows, q.poolId ≠ "p" := by
  have pool : ∀ events p, (Store.empty.run events).pool? "p" = some p →
      p ∈ (Store.empty.run events).pools.rows ∧ p.poolId = "p" := fun events p found =>
    ⟨Table.mem_of_find? found, Store.poolId_of_pool? found⟩
  obtain ⟨participants, pools⟩ := closing_is_never_blocked entering
  refine ⟨?_, ?_, ?_⟩
  · have record : ((Store.empty.run entering).participant? "b" "p").map (·.shares) = some 0 := by decide +kernel
    obtain ⟨q, found, none⟩ := Option.map_eq_some_iff.mp record
    obtain ⟨named, owned⟩ := Store.owner_of_participant? found
    obtain ⟨-, accepted, asks⟩ := participants q (Table.mem_of_find? found)
    rw [named, owned] at accepted asks
    exact (accepted {} 50 _ (asks 50)).mpr none
  · have staked : ((Store.empty.run entering).pool? "p").map (fun p => (p.owner, p.totalShares)) =
        some (Text.ofString "o", 40) := by decide +kernel
    obtain ⟨p, found, same⟩ := Option.map_eq_some_iff.mp staked
    obtain ⟨owned, total⟩ := Prod.mk.inj same
    obtain ⟨member, named⟩ := pool entering p found
    obtain ⟨accepted, asks⟩ := pools p member
    rw [named, owned] at accepted asks
    rw [(accepted {} 50 _ (asks 50)).1, total]
    decide
  · have unstaked : ((Store.empty.run (entering ++ [leaving])).pool? "p").map (fun p => (p.owner, p.totalShares)) =
        some (Text.ofString "o", 0) := by decide +kernel
    obtain ⟨p, found, same⟩ := Option.map_eq_some_iff.mp unstaked
    obtain ⟨owned, total⟩ := Prod.mk.inj same
    obtain ⟨member, named⟩ := pool _ p found
    obtain ⟨accepted, asks⟩ := (closing_is_never_blocked (entering ++ [leaving])).2 p member
    rw [named, owned] at accepted asks
    obtain ⟨closes, gone⟩ := accepted {} 50 _ (asks 50)
    obtain ⟨t, effects, closed⟩ := closes.mpr total
    exact ⟨t, effects, closed, gone t effects closed⟩

end YieldPool
