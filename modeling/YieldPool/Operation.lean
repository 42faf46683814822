import YieldPool.Config
import YieldPool.Error

/-!
# Operations

An operation names a module, a version, an action and a pool, and has the fields that its action allows.
`Operation.parse` accepts exactly the sequences of such operations that keep within the limits of a configuration.
Values of the fields beyond these four are left to the action.
-/

namespace YieldPool

/-- What an operation can do. -/
inductive Action where
  | initializePool
  | initializeParticipant
  | stake
  | unstake
  | harvest
  | freezePool
  | thawPool
  | seed
  | unseed
  | transferPoolOwnership
  | closeParticipant
  | closePool
deriving DecidableEq, Repr

namespace Action

/-- All actions. -/
def all : List Action :=
  [.initializePool, .initializeParticipant, .stake, .unstake, .harvest, .freezePool, .thawPool, .seed, .unseed,
    .transferPoolOwnership, .closeParticipant, .closePool]

/-- The name of an action. -/
def name : Action → Text
  | .initializePool => "initialize_pool"
  | .initializeParticipant => "initialize_participant"
  | .stake => "stake"
  | .unstake => "unstake"
  | .harvest => "harvest"
  | .freezePool => "freeze_pool"
  | .thawPool => "thaw_pool"
  | .seed => "seed"
  | .unseed => "unseed"
  | .transferPoolOwnership => "transfer_pool_ownership"
  | .closeParticipant => "close_participant"
  | .closePool => "close_pool"

/-- The action with a name. -/
def ofName? (t : Text) : Option Action := all.find? fun a => decide (a.name = t)

/-- The fields of an action beyond those that all operations have. -/
def ownFields : Action → List Text
  | .initializePool => ["reward_rate", "period", "stake_asset", "reward_asset"]
  | .stake | .unstake | .seed | .unseed => ["amount"]
  | .transferPoolOwnership => ["new_owner"]
  | .initializeParticipant | .harvest | .freezePool | .thawPool | .closeParticipant | .closePool => []

end Action

/-- The fields that all operations have. -/
def Operation.commonFields : List Text := ["module", "version", "action", "pool_id"]

/-- An operation that is well-formed as far as its common fields go. -/
structure Operation where
  poolId : Text
  action : Action
  entries : Value.Entries

namespace Operation

/-- A text of one code point or more, up to a number of them. -/
def requireText (field : Text) (longest : Nat) (v : Value) : Except Error Text :=
  match v with
  | .text t => do
    require (t ≠ []) (.operation (.empty field))
    require (t.length ≤ longest) (.operation (.tooLong field))
    return t
  | _ => .error (.operation (.notText field))

/-- An integer within bounds. -/
def requireInt (field : Text) (least greatest : Int) (v : Value) : Except Error Int :=
  match v with
  | .int n => do
    require (least ≤ n ∧ n ≤ greatest) (.operation (.outOfRange field least greatest))
    return n
  | _ => .error (.operation (.notInt field))

/-- How long module, version and action may be. -/
def longestWord : Nat := 64

/-- How long other names may be. -/
def longestName : Nat := 256

/-- The number of bytes of an operation's canonical form. -/
def size (index : Nat) (entries : Value.Entries) : Except Error Nat :=
  match (Value.dictionary entries).canonicalBytes with
  | .ok bytes => .ok bytes.length
  | .error cause => .error (.operation (.notCanonical index cause))

/-- The entries of the mapping with an index in the list. -/
def entriesOf (index : Nat) (entry : Value) : Except Error Value.Entries :=
  orRefuse entry.mapping? (.operation (.notObject index))

/-- The names among the keys that the action does not allow. -/
def unknownFields (action : Action) (entries : Value.Entries) : List Text :=
  entries.filterMap fun entry => match entry.1 with
    | .text t => if t ∈ commonFields ∨ t ∈ action.ownFields then none else some t
    | _ => none

/-- The operation that a value describes; `index` is its place in the list. -/
def ofValue (c : Config) (index : Nat) (entry : Value) : Except Error Operation := do
  let entries ← entriesOf index entry
  let size ← size index entries
  require (size ≤ c.maxOpBytes) (.operation (.tooLarge index))
  let module ← requireText "farm.module" longestWord (entries.getD "module")
  require (some module = c.module) (.operation (.wrongModule module))
  let version ← requireText "farm.version" longestWord (entries.getD "version")
  require (some version = c.version) (.operation (.wrongVersion version))
  let name ← requireText "farm.action" longestWord (entries.getD "action")
  let action ← orRefuse (Action.ofName? name) (.operation (.unknownAction name))
  let unknown := unknownFields action entries
  require (unknown = []) (.operation (.unknownFields name (Text.sort unknown)))
  let poolId ← requireText "farm.pool_id" longestName (entries.getD "pool_id")
  return ⟨poolId, action, entries⟩

/-- The operations of the values of a list, the first of which has a given place. -/
def ofValues (c : Config) (index : Nat) : List Value → Except Error (List Operation)
  | [] => .ok []
  | entry :: rest => do
    let first ← ofValue c index entry
    let others ← ofValues c (index + 1) rest
    return first :: others

/-- The operations that a value lists, which may be any sequence that is neither a text nor bytes. -/
def parse (c : Config) (v : Value) : Except Error (List Operation) := do
  let items ← orRefuse v.sequence? (.operation (.notList v.kind))
  require (items.length ≤ c.maxOps) (.operation (.tooMany items.length c.maxOps))
  ofValues c 0 items

/-- A field of an operation, null where it is left out. -/
def field (op : Operation) (name : Text) : Value := op.entries.getD name

/-- The amount of tokens that an operation moves. -/
def amount (op : Operation) : Except Error Int := requireInt "amount" 1 Width.u64.greatest (op.field "amount")

end Operation

end YieldPool
