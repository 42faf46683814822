import YieldPool.Config.Environment
import YieldPool.Json.Reader
import YieldPool.Store.Snapshot
import YieldPool.Transaction

/-!
# Replaying a file of transactions

A replay starts from an empty store, credits the mints, and applies the transactions one after the other. It writes a
line for each effect of an accepted transaction and one line for a rejected one, then the snapshot if wanted, and last
the commitment of the store with the number of rejections. A fault of the document ends the replay; what was written
stays.
-/

namespace YieldPool.Replay

/-- The document that a text writes. -/
def documentOf (t : Text) : Except Error Value :=
  match Json.read t with
  | .ok document => .ok document
  | .error .malformed => .error .notDocument
  | .error .tooDeep => .error .nestedTooDeeply

/-- The store with one mint: account, asset and amount in a row. -/
def mint (s : Store Ledger) (entry : Value) : Except Error (Store Ledger) := do
  match ← entry.items with
  | [account, asset, amount] => s.credit account.display asset.display (← amount.toInt)
  | _ => throw (.misuse .wrongCount)

/-- The operation of a document, which need not name the module and version of the configuration. -/
def operationOf (config : Config) (v : Value) : Except Error Value := do
  let word (t : Option Text) : Value := match t with
    | some t => .text t
    | none => .null
  let defaults : Value.Entries := [(.text "module", word config.module), (.text "version", word config.version)]
  let entries ← orRefuse v.mapping? (.misuse .noEntries)
  return .dictionary (defaults.merge entries)

/-- The request that a transaction of a document makes. -/
def requestOf (config : Config) (v : Value) : Except Error Request := do
  let listed ← v.fieldOr "ops" (.list [])
  let operations ← (← listed.items).mapM (operationOf config)
  let sender ← v.entry "sender"
  let now ← (← v.entry "now").toInt
  return ⟨sender, .int now, .list operations⟩

/-- How far a replay has come: the store, and what became of the transactions so far. -/
structure Progress where
  store : Store Ledger
  results : List TxResult

/-- The progress after one more transaction. The time is always given, so no clock is read. -/
def step (config : Config) (p : Progress) (v : Value) : Except Error Progress := do
  let request ← requestOf config v
  let (store, result) ← Transaction.apply config 0 request p.store
  return ⟨store, p.results ++ [result]⟩

/-- The progress after transactions, and what stopped them. -/
def steps (config : Config) (p : Progress) : List Value → Progress × Option Error
  | [] => (p, none)
  | v :: rest =>
    match step config p v with
    | .ok next => steps config next rest
    | .error e => (p, some e)

/-- Whether a request was rejected. -/
def isRejected : TxResult → Bool
  | .accepted _ => false
  | .rejected .. => true

/-- How many transactions were rejected. -/
def Progress.rejected (p : Progress) : Nat := p.results.countP isRejected

/-- The lines for what became of the transaction with an index. -/
def linesOf (index : Nat) (r : TxResult) : List Text :=
  let heading : Text := "[farm-replay] tx " ++ Text.ofNat index ++ ": "
  match r with
  | .accepted effects => effects.map fun effect => heading ++ effect.toJson.toLine
  | .rejected code message => [heading ++ "REJECTED (" ++ code ++ ") " ++ message]

/-- The lines for transactions of which the first has a given index. -/
def linesFrom (index : Nat) : List TxResult → List Text
  | [] => []
  | r :: rest => linesOf index r ++ linesFrom (index + 1) rest

/-- The lines for all transactions so far. -/
def Progress.lines (p : Progress) : List Text := linesFrom 0 p.results

/-- The store with all mints of a document. -/
def minted (document : Value) : Except Error (Store Ledger) := do
  let entries ← document.fieldOr "mint" (.list [])
  (← entries.items).foldlM mint Store.empty

/-- The transactions of a document. -/
def transactionsOf (document : Value) : Except Error (List Value) := do
  let entries ← document.fieldOr "transactions" (.list [])
  entries.items

/-- The last line: the commitment and the number of rejections. -/
def closingLine (p : Progress) : Except Error Text := do
  let commitment ← p.store.commitment
  return "[farm-replay] commitment=" ++ commitment ++ " rejected=" ++ Text.ofNat p.rejected

/-- The lines that a document makes a replay write, and what stopped it. -/
def lines (config : Config) (showSnapshot : Bool) (document : Value) : List Text × Option Error :=
  match minted document, transactionsOf document with
  | .error e, _ => ([], some e)
  | .ok _, .error e => ([], some e)
  | .ok store, .ok transactions =>
    match steps config ⟨store, []⟩ transactions with
    | (p, some e) => (p.lines, some e)
    | (p, none) =>
      let written := if showSnapshot then p.lines ++ [p.store.snapshot.toLines] else p.lines
      match closingLine p with
      | .ok line => (written ++ [line], none)
      | .error e => (written, some e)

/-- The lines of a replay under the configuration of a file and the environment; the document is looked at after the
configuration. -/
def perform (file : Option Value) (e : Environment) (showSnapshot : Bool) (document : Except Error Value) :
    List Text × Option Error :=
  match Config.load file e, document with
  | .error e, _ => ([], some e)
  | .ok _, .error e => ([], some e)
  | .ok config, .ok document => lines config showSnapshot document

/-- Lines as they are written, each with its end. -/
def written (lines : List Text) : Text := lines.flatMap fun line => line ++ "\n"

end YieldPool.Replay
