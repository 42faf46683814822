import YieldPool.Json
import YieldPool.Operation
import YieldPool.Record
import YieldPool.Reward.Rebalance

/-!
# Effects

What an accepted operation reports: the action, the pool, the sender, and what came of it. The document of an effect
has one member for each; where the owner of the pool was set, the new owner stands in the sender's place.
-/

namespace YieldPool

/-- What came of a change of stake: the elapsed periods, the reward paid out, and shares, debt and total after it. -/
structure StakeChange where
  delay : Int
  harvested : Int
  shares : Int
  debt : Int
  totalShares : Int
deriving DecidableEq, Repr

/-- What came of an operation. -/
inductive Effect.Outcome where
  | poolOpened (genesisTime : Int)
  | participantOpened
  | staked (change : StakeChange) (amount : Int)
  | unstaked (change : StakeChange) (amount : Int)
  | harvested (change : StakeChange)
  | statusSet (status : PoolStatus)
  | seeded (amount : Int)
  | unseeded (amount : Int)
  | ownerSet (owner : Text)
  | participantClosed
  | poolClosed (returnedRewards : Int)
deriving DecidableEq, Repr

/-- The report of an operation. -/
structure Effect where
  action : Action
  poolId : Text
  sender : Text
  outcome : Effect.Outcome
deriving DecidableEq, Repr

namespace Effect

/-- The members of a change of stake. -/
def changeMembers (c : StakeChange) : List (Text × Json) :=
  [("delay", .int c.delay), ("harvested", .int c.harvested), ("shares", .int c.shares), ("debt", .int c.debt),
    ("total_shares", .int c.totalShares)]

/-- The members of an outcome, the owner aside. -/
def Outcome.members : Outcome → List (Text × Json)
  | .poolOpened genesisTime => [("genesis_time", .int genesisTime)]
  | .participantOpened | .participantClosed | .ownerSet _ => []
  | .staked change amount | .unstaked change amount => ("amount", .int amount) :: changeMembers change
  | .harvested change => changeMembers change
  | .statusSet status => [("status", .text status.name)]
  | .seeded amount | .unseeded amount => [("amount", .int amount)]
  | .poolClosed returnedRewards => [("returned_rewards", .int returnedRewards)]

/-- The document of an effect. The owner is the sender, or the new owner where one was set. -/
def toJson (e : Effect) : Json :=
  let owner := match e.outcome with
    | .ownerSet owner => owner
    | _ => e.sender
  .record
    (("action", .text e.action.name) :: ("pool_id", .text e.poolId) :: ("owner", .text owner) :: e.outcome.members)

end Effect

end YieldPool
