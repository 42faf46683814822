import YieldPool.Main
import YieldPool.Reward.Unchecked
import YieldPool.Ledger.Unchecked
import YieldPool.Store.Unchecked
import YieldPool.Proofs.Table
import YieldPool.Proofs.Arrivals
import YieldPool.Proofs.Reward.Solvency
import YieldPool.Proofs.Reward.Isolation
import YieldPool.Proofs.Reward.Coverage
import YieldPool.Proofs.Reward.ProRata
import YieldPool.Proofs.Record
import YieldPool.Proofs.Ledger
import YieldPool.Proofs.Transaction.Consistency
import YieldPool.Proofs.Transaction.Custody
import YieldPool.Proofs.Transaction.Refinement
import YieldPool.Proofs.Transaction.Commitment
import YieldPool.Proofs.Transaction.Accounting
import YieldPool.Proofs.Handler.Scope
import YieldPool.Proofs.Transaction.Frame
import YieldPool.Proofs.Transaction.Answer
import YieldPool.Proofs.Record.Codec
import YieldPool.Proofs.Store.Restore
import YieldPool.Proofs.Transaction.Restoration
import YieldPool.Proofs.Transaction.Batch
import YieldPool.Proofs.Transaction.Independence
import YieldPool.Proofs.Transaction.Authority
import YieldPool.Proofs.Reward.Exit
import YieldPool.Proofs.Digest
import YieldPool.Proofs.Transaction.Freeze
import YieldPool.Proofs.Transaction.Closing
import YieldPool.Proofs.Store.Contents
import YieldPool.Proofs.Store.Arrivals
import YieldPool.Proofs.Reward.ClosedForm
import YieldPool.Proofs.Reward.Order
import YieldPool.Proofs.Reward.SamePeriod
import YieldPool.Proofs.Replay
import YieldPool.Proofs.Replay.Deletion
import YieldPool.Proofs.Reward.Frequency
import YieldPool.Proofs.Ledger.Calls
import YieldPool.Proofs.Record.Exact
import YieldPool.Proofs.Json.Plain
import YieldPool.Proofs.Operation.Grammar
import YieldPool.Proofs.Config.Environment
import YieldPool.Proofs.Store.Rearrangement
