import YieldPool.Binary64.Shortest
import YieldPool.Text.Quoted
import YieldPool.Value

/-!
# The text of values

`shown` is the form of a value in messages: quoted texts, lists in square brackets, dictionaries in braces. `display`
is the same form, but a text stands for itself without quotation marks and a status for its name.
-/

namespace YieldPool.Value

mutual

/-- A value with its texts quoted. -/
def shown : Value → Text
  | .null => "None"
  | .bool b => if b then "True" else "False"
  | .int n => Text.ofInt n
  | .float x => x.text
  | .text t => t.quoted
  | .bytes bs => Text.quotedBytes bs
  | .status s => "<PoolStatus." ++ s.name ++ ": " ++ s.name.quoted ++ ">"
  | .list items => "[" ++ Text.joinWith ", " (shownItems items) ++ "]"
  | .tuple [x] => "(" ++ shown x ++ ",)"
  | .tuple items => "(" ++ Text.joinWith ", " (shownItems items) ++ ")"
  | .queue items => "deque([" ++ Text.joinWith ", " (shownItems items) ++ "])"
  | .dictionary entries => "\x7b" ++ Text.joinWith ", " (shownEntries entries) ++ "\x7d"
  | .view entries => "mappingproxy(\x7b" ++ Text.joinWith ", " (shownEntries entries) ++ "\x7d)"
termination_by structural v => v

/-- The items of a sequence one by one. -/
def shownItems : List Value → List Text
  | [] => []
  | x :: rest => shown x :: shownItems rest
termination_by structural items => items

/-- The entries of a mapping one by one, a colon between key and value. -/
def shownEntries : List (Value × Value) → List Text
  | [] => []
  | (k, v) :: rest => (shown k ++ ": " ++ shown v) :: shownEntries rest
termination_by structural entries => entries

end

/-- A value as it is put into a message or made an account name: a text as it is, a status by its name, other values as
shown. -/
def display : Value → Text
  | .text t => t
  | .status s => "PoolStatus." ++ s.name
  | v => v.shown

end YieldPool.Value
