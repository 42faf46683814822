import YieldPool.Failure
import YieldPool.Reward.Accrual
import YieldPool.Json.Canonical
import YieldPool.Ledger
import YieldPool.Reward.Fault
import YieldPool.Value.Compare
import YieldPool.Value.Display
import YieldPool.Value.Misuse

/-!
# Errors

Everything that can be refused, by cause. Each cause has a kind, and those that this library words itself have a
message; a value that was used as what it is not, a document that is none, and the like are reported without one.
-/

namespace YieldPool

/-- Why operands that have not been checked are refused. -/
inductive OperandRefusal where
  | notInt (quantity : Text) (kind : Kind)
  | sharesExceedTotal (shares total : Value)
  | periodNotPositive (length : Value)
  | beforeGenesis (now genesis : Value)
  | backwards (seconds : Value)
  | negativeBalance (amount : Value)
  | negativeCredit (amount : Value)
  | negativeDebit (amount : Value)
  | insufficient (account balance amount asset : Value)

/-- The two kinds of stored records. -/
inductive RecordKind where
  | pool | participant
deriving DecidableEq, Repr

/-- The name of a kind of records. -/
def RecordKind.name : RecordKind → Text
  | .pool => "pool"
  | .participant => "participant"

/-- Why a record is refused. -/
inductive RecordRefusal where
  | notInt (field : Text)
  | outOfRange (field : Text) (least greatest n : Int)
  | notText (field : Text)
  | notStatus
  /-- No status has this name. -/
  | unknownStatus
  | version (kind : RecordKind) (found : Value)
  | missing (kind : RecordKind) (fields : List Text)
  | unknown (kind : RecordKind) (keys : List Value)

/-- Why a change of a store or a snapshot is refused. -/
inductive StoreRefusal where
  | unknownPool (poolId : Text)
  | unknownParticipant (owner poolId : Text)
  | version (found : Value)
  | duplicatePool (poolId : Text)
  | orphan (poolId : Text)
  | duplicateParticipant (owner poolId : Text)
  | duplicateBalance (account asset : Text)
  | inconsistentPool (poolId : Text) (violations : List Violation)

/-- Why a configuration is refused. -/
inductive ConfigRefusal where
  | maxOps
  | maxOpBytes
  | periodBounds
  | maxRewardRate
  | notMapping
  | unknown (keys : List Value)
  | notInt (field : Text)
  | notText (field : Text)

/-- Why a list of operations is not well-formed, or a field of one is refused. -/
inductive OperationRefusal where
  | notText (field : Text)
  | empty (field : Text)
  | tooLong (field : Text)
  | notInt (field : Text)
  | outOfRange (field : Text) (least greatest : Int)
  | notList (kind : Kind)
  | tooMany (count limit : Int)
  | notObject (index : Nat)
  | notCanonical (index : Nat) (cause : CanonicalRefusal)
  | tooLarge (index : Nat)
  | wrongModule (found : Text)
  | wrongVersion (found : Text)
  | unknownAction (found : Text)
  | unknownFields (action : Text) (fields : List Text)

/-- Why an operation is refused in the state of the store. -/
inductive ActionRefusal where
  | operatorOnly
  | ownerOnly
  | poolExists (poolId : Text)
  | poolUnknown (poolId : Text)
  | poolFrozen (poolId : Text)
  | poolHoldsShares (shares : Int)
  | participantExists (owner poolId : Text)
  | participantUnknown (owner poolId : Text)
  | participantHolds (owner : Option Text)
  | unstakeExceeds (amount shares : Int)

/-- Everything that can be refused. -/
inductive Error where
  | fault (f : Fault)
  | clock (r : ClockRefusal)
  | operand (r : OperandRefusal)
  | misuse (m : Misuse)
  | canonical (r : CanonicalRefusal)
  /-- A digest's label holds a code point beyond ASCII. -/
  | labelNotAscii
  /-- The text is no JSON document. -/
  | notDocument
  /-- The JSON document is nested too deeply. -/
  | nestedTooDeeply
  | record (r : RecordRefusal)
  | ledger (r : LedgerRefusal)
  | store (r : StoreRefusal)
  | config (r : ConfigRefusal)
  | operation (r : OperationRefusal)
  | action (r : ActionRefusal)

/-- The kind of a refusal of unchecked operands. -/
def OperandRefusal.kind : OperandRefusal → FailureKind
  | .notInt .. => .type
  | .sharesExceedTotal .. => .reward .accountingPrecondition
  | _ => .value

/-- The message of a refusal of unchecked operands. -/
def OperandRefusal.message : OperandRefusal → Text
  | .notInt quantity kind => quantity ++ " must be an int, got " ++ kind.name
  | .sharesExceedTotal shares total =>
    "participant shares exceed pool total: " ++ shares.display ++ " > " ++ total.display
  | .periodNotPositive length => "period_length must be positive: " ++ length.display
  | .beforeGenesis now genesis => "clock is before pool genesis: now=" ++ now.display ++ " genesis=" ++ genesis.display
  | .backwards seconds => "cannot move clock backwards: " ++ seconds.display
  | .negativeBalance amount => "Balance cannot be negative: " ++ amount.display
  | .negativeCredit amount => "Credit must be non-negative: " ++ amount.display
  | .negativeDebit amount => "Debit must be non-negative: " ++ amount.display
  | .insufficient account balance amount asset =>
    "Insufficient balance for " ++ account.display ++ ": " ++ balance.display ++ " < " ++ amount.display ++ " (" ++
      asset.display ++ ")"

/-- The kind of a refusal of a record. -/
def RecordRefusal.kind : RecordRefusal → FailureKind
  | .notInt _ | .notText _ | .notStatus => .type
  | .outOfRange .. | .unknownStatus | .version .. | .unknown .. => .value
  | .missing .. => .missingEntry

/-- A range in a message. -/
def rangeText (least greatest : Int) : Text := "[" ++ Text.ofInt least ++ ", " ++ Text.ofInt greatest ++ "]"

/-- The message of a refusal of a record. -/
def RecordRefusal.message? : RecordRefusal → Option Text
  | .notInt field => some (field ++ " must be an int")
  | .outOfRange field least greatest n =>
    some (field ++ " out of range " ++ rangeText least greatest ++ ": " ++ Text.ofInt n)
  | .notText field => some (field ++ " must be a non-empty string")
  | .notStatus => some "status must be a PoolStatus"
  | .unknownStatus => none
  | .version kind found => some ("unsupported " ++ kind.name ++ " record version: " ++ found.shown)
  | .missing kind fields => some (kind.name ++ " record missing fields: " ++ Text.quotedList fields)
  | .unknown kind keys => some (kind.name ++ " record has unknown fields: " ++ (Value.list keys).shown)

/-- The kind of a refusal of a store. -/
def StoreRefusal.kind : StoreRefusal → FailureKind
  | .unknownPool _ | .unknownParticipant .. => .missingEntry
  | _ => .value

/-- The message of a refusal of a store. -/
def StoreRefusal.message : StoreRefusal → Text
  | .unknownPool poolId => "unknown pool: " ++ poolId
  | .unknownParticipant owner poolId => "unknown participant: " ++ owner ++ " in " ++ poolId
  | .version found => "unsupported store snapshot version: " ++ found.shown
  | .duplicatePool poolId => "duplicate pool entry: " ++ poolId
  | .orphan poolId => "participant references unknown pool: " ++ poolId
  | .duplicateParticipant owner poolId => "duplicate participant entry: " ++ owner ++ " in " ++ poolId
  | .duplicateBalance account asset => "duplicate balance entry: (" ++ account ++ ", " ++ asset ++ ")"
  | .inconsistentPool poolId violations => "pool " ++ poolId ++ " violates invariants: " ++ Violation.listed violations

/-- The kind of a refusal of a configuration. -/
def ConfigRefusal.kind : ConfigRefusal → FailureKind
  | .notMapping | .notInt _ | .notText _ => .type
  | _ => .value

/-- The message of a refusal of a configuration. -/
def ConfigRefusal.message : ConfigRefusal → Text
  | .maxOps => "max_ops must be positive"
  | .maxOpBytes => "max_op_bytes must be positive"
  | .periodBounds => "period bounds must satisfy 1 <= min <= max"
  | .maxRewardRate => "max_reward_rate must fit u64"
  | .notMapping => "config YAML must be a mapping"
  | .unknown keys => "unknown config keys: " ++ (Value.list keys).shown
  | .notInt field => "config " ++ field ++ " must be an int"
  | .notText field => "config " ++ field ++ " must be a string"

/-- The message of a refusal of an operation. -/
def OperationRefusal.message : OperationRefusal → Text
  | .notText field => field ++ " must be a string"
  | .empty field => field ++ " must be non-empty"
  | .tooLong field => field ++ " too large"
  | .notInt field => field ++ " must be an int"
  | .outOfRange field least greatest => field ++ " out of range " ++ rangeText least greatest
  | .notList kind => "operations must be a list, got <class '" ++ kind.fullName ++ "'>"
  | .tooMany count limit => "too many farm ops: " ++ Text.ofInt count ++ " > " ++ Text.ofInt limit
  | .notObject index => "farm op " ++ Text.ofNat index ++ " must be an object"
  | .notCanonical index cause => "invalid farm op " ++ Text.ofNat index ++ ": " ++ cause.message
  | .tooLarge index => "farm op " ++ Text.ofNat index ++ " too large"
  | .wrongModule found => "invalid farm module: " ++ found
  | .wrongVersion found => "invalid farm version: " ++ found
  | .unknownAction found => "unknown farm action: " ++ found
  | .unknownFields action fields => "unknown fields for " ++ action ++ ": " ++ Text.quotedList fields

/-- The message of a refusal in the state of the store. -/
def ActionRefusal.message : ActionRefusal → Text
  | .operatorOnly => "operator only"
  | .ownerOnly => "pool owner only"
  | .poolExists poolId => "pool already exists: " ++ poolId
  | .poolUnknown poolId => "unknown pool: " ++ poolId
  | .poolFrozen poolId => "pool is frozen: " ++ poolId
  | .poolHoldsShares shares => "pool still holds shares: " ++ Text.ofInt shares
  | .participantExists owner poolId => "participant already exists: " ++ owner ++ " in " ++ poolId
  | .participantUnknown owner poolId => "no participant record for " ++ owner ++ " in " ++ poolId
  | .participantHolds none => "participant still holds shares or debt"
  | .participantHolds (some owner) => "participant " ++ owner ++ " still holds shares or debt"
  | .unstakeExceeds amount shares => "unstake exceeds shares: " ++ Text.ofInt amount ++ " > " ++ Text.ofInt shares

namespace Error

/-- The kind of an error. -/
def kind : Error → FailureKind
  | .fault f => .reward f.code
  | .operand r => r.kind
  | .misuse m => m.kind
  | .canonical _ => .type
  | .labelNotAscii => .encoding
  | .notDocument => .document
  | .nestedTooDeeply => .depth
  | .record r => r.kind
  | .store r => r.kind
  | .config r => r.kind
  | .clock _ | .ledger _ | .operation _ | .action _ => .value

/-- The message of an error, if it has one. -/
def message? : Error → Option Text
  | .fault f => some f.message
  | .clock r => some r.message
  | .operand r => some r.message
  | .misuse _ | .canonical (.unwritable _) | .labelNotAscii | .notDocument | .nestedTooDeeply => none
  | .canonical r => some r.message
  | .record r => r.message?
  | .ledger r => some r.message
  | .store r => some r.message
  | .config r => some r.message
  | .operation r => some r.message
  | .action r => some r.message

end Error

instance : MonadLift (Except Fault) (Except Error) := ⟨fun x => x.mapError .fault⟩

instance : MonadLift (Except ClockRefusal) (Except Error) := ⟨fun x => x.mapError .clock⟩

instance : MonadLift (Except Misuse) (Except Error) := ⟨fun x => x.mapError .misuse⟩

instance : MonadLift (Except CanonicalRefusal) (Except Error) := ⟨fun x => x.mapError .canonical⟩

instance : MonadLift (Except LedgerRefusal) (Except Error) := ⟨fun x => x.mapError .ledger⟩

/-- What a use of a value yields is kept where its misuse would be an error. -/
@[simp] theorem liftM_misuse_ok {α : Type} (a : α) :
    (liftM (Except.ok a : Except Misuse α) : Except Error α) = .ok a := rfl

/-- Refuses unknown keys, which are reported in their order if they have one. -/
def requireNone (unknown : List Value) (refusal : List Value → Error) : Except Error Unit :=
  if unknown.isEmpty then .ok ()
  else
    match Value.sort? unknown with
    | some sorted => .error (refusal sorted)
    | none => .error (.misuse .noOrder)

end YieldPool
