import YieldPool.Config
import YieldPool.Text.Numeral

/-!
# Settings from the environment

Four settings can be overridden by environment variables. A variable that is not set, blank, or not a number where one
is wanted changes nothing, and a number beyond the bounds of its setting is moved to the nearer bound. The bounds of
the longest period follow the shortest period after its override.
-/

namespace YieldPool

/-- The texts of the variables that are set. -/
structure Environment where
  maxOps : Option Text := none
  minPeriodSeconds : Option Text := none
  maxPeriodSeconds : Option Text := none
  operatorPubkey : Option Text := none
deriving DecidableEq, Repr

namespace Environment

/-- The text of a variable without blanks at its ends, unless nothing is left. -/
def stripped? (given : Option Text) : Option Text := do
  let text := (← given).trim CodePoint.isBlank
  if text.isEmpty then none else some text

/-- The number of a variable moved between two bounds, or what it is without the variable. A number below the lower
bound becomes the lower bound even where that is above the upper one. -/
def bounded (given : Option Text) (unset least greatest : Int) : Int :=
  match (stripped? given).bind Text.int? with
  | some n => if n < least then least else if greatest < n then greatest else n
  | none => unset

/-- The configuration with the variables applied. -/
def apply (e : Environment) (c : Config) : Except Error Config :=
  let shortest := bounded e.minPeriodSeconds c.minPeriodSeconds 1 Width.u64.greatest
  let longest := bounded e.maxPeriodSeconds (max c.maxPeriodSeconds shortest) shortest Width.u64.greatest
  Config.check { c with
    maxOps := bounded e.maxOps c.maxOps 1 4096
    minPeriodSeconds := shortest
    maxPeriodSeconds := longest
    operatorPubkey := stripped? e.operatorPubkey <|> c.operatorPubkey }

end Environment

namespace Config

/-- The configuration of a file's content, if there is a file; a file without content sets nothing. -/
def ofFile : Option Value → Except Error Config
  | none | some .null => .ok {}
  | some v => do
    require (v.mapping?.isSome = true) (.config .notMapping)
    ofValue v

/-- The configuration of a file, if there is one, with the variables of the environment applied. -/
def load (file : Option Value) (e : Environment) : Except Error Config := do
  let c ← ofFile file
  e.apply c

end Config

end YieldPool
