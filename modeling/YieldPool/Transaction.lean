import YieldPool.Handler

/-!
# Transactions

A transaction is a list of operations of one sender at one time. Its operations are handled one after the other on a
copy of the store, which takes the store's place only if all of them are accepted and every pool they name is
consistent afterwards (`submit`). `applyOrThrow` reports the first refusal as an error, `apply` as a rejection.
-/

namespace YieldPool

/-- What a caller asks for: a sender, a time, where null leaves it to a clock, and a list of operations. -/
structure Request where
  sender : Value
  now : Value
  operations : Value

/-- What becomes of a request: the effects of its operations, or the code and the text of a rejection. -/
inductive TxResult where
  | accepted (effects : List Effect)
  | rejected (code message : Text)
deriving DecidableEq, Repr

namespace Transaction

variable {L : Type}

/-- Handles one operation. -/
def step [Custody L] (c : Handler.Context) (s : Store L) (op : Operation) : Except Error (Store L × Effect) := do
  let (s, outcome) ← Handler.ofAction op.action c op s
  return (s, ⟨op.action, op.poolId, c.sender, outcome⟩)

/-- Handles operations one after the other and collects their effects. -/
def run [Custody L] (c : Handler.Context) (s : Store L) : List Operation → Except Error (Store L × List Effect)
  | [] => .ok (s, [])
  | op :: rest => do
    let (s, effect) ← step c s op
    let (s, effects) ← run c s rest
    return (s, effect :: effects)

/-- Refuses a store in which a pool with one of these identifiers is not consistent; the first such pool is named. -/
def checkPools (s : Store L) (poolIds : List Text) : Except Error Unit :=
  (Text.sort poolIds).forM fun poolId =>
    match s.pool? poolId with
    | none => .ok ()
    | some pool =>
      require ((s.books pool).violations = []) (.fault (.poolInconsistent poolId (s.books pool).violations))

/-- The time of a request, of which null leaves it to the clock. -/
def timeOf (clock : Int) (now : Value) : Except Error Int :=
  match now with
  | .null => .ok clock
  | v => Operation.requireInt "now" 0 Width.u64.greatest v

/-- Checks sender and time, and reads the operations. -/
def read (config : Config) (clock : Int) (r : Request) : Except Error (Handler.Context × List Operation) := do
  let sender ← Operation.requireText "tx_sender" Operation.longestName r.sender
  let now ← timeOf clock r.now
  let operations ← Operation.parse config r.operations
  return (⟨sender, now, config⟩, operations)

/-- Handles operations and checks the pools that they name. -/
def block [Custody L] (c : Handler.Context) (operations : List Operation) (s : Store L) :
    Except Error (Store L × List Effect) := do
  let (s, effects) ← run c s operations
  checkPools s (operations.map (·.poolId))
  return (s, effects)

/-- Reads a request and handles its operations in one transaction: the store afterwards, and the effects or the first
refusal. -/
def submit [Custody L] (config : Config) (clock : Int) (r : Request) (s : Store L) :
    Store L × Except Error (List Effect) :=
  match read config clock r with
  | .ok (c, operations) => s.transaction (block c operations)
  | .error e => (s, .error e)

/-- The store after a request and the effects of its operations, or the first refusal. -/
def applyOrThrow [Custody L] (config : Config) (clock : Int) (r : Request) (s : Store L) :
    Except Error (Store L × List Effect) :=
  match submit config clock r s with
  | (s, .ok effects) => .ok (s, effects)
  | (_, .error e) => .error e

/-- The rejection that an error becomes, if it is of a kind that is reported as a rejection. -/
def rejection? (e : Error) : Option TxResult :=
  match e.kind with
  | .reward code => some (.rejected code.name (e.message?.getD []))
  | .value | .encoding | .document | .type | .missingEntry => some (.rejected "rejected" (e.message?.getD []))
  | .missingField | .overflow | .memory | .depth => none

/-- The store after a request and what became of it. -/
def apply [Custody L] (config : Config) (clock : Int) (r : Request) (s : Store L) : Except Error (Store L × TxResult) :=
  match submit config clock r s with
  | (s, .ok effects) => .ok (s, .accepted effects)
  | (s, .error e) =>
    match rejection? e with
    | some rejected => .ok (s, rejected)
    | none => .error e

end Transaction

end YieldPool
