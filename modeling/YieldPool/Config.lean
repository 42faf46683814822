import YieldPool.Error

/-!
# Configuration

The limits within which operations are accepted, and who may open pools. A configuration is read from a mapping
that names some of the settings; the others keep their defaults.
-/

namespace YieldPool

/-- The settings of the instruction processor. -/
structure Config where
  /-- The module that operations must name. -/
  module : Option Text := some "Farm"
  /-- The version that operations must name. -/
  version : Option Text := some "0.1"
  /-- How many operations a transaction may have. -/
  maxOps : Int := 256
  /-- How many bytes the canonical form of an operation may have. -/
  maxOpBytes : Int := 64000
  /-- The shortest period of a new pool. -/
  minPeriodSeconds : Int := 1
  /-- The longest period of a new pool; ten years of 365 days if not set. -/
  maxPeriodSeconds : Int := 315360000
  /-- The greatest reward rate of a new pool. -/
  maxRewardRate : Int := Width.u64.greatest
  /-- Who alone may open pools; anybody may if nobody is named. -/
  operatorPubkey : Option Text := none
deriving DecidableEq, Repr

namespace Config

/-- The limits allow something and do not contradict each other. -/
def Valid (c : Config) : Prop :=
  0 < c.maxOps ∧ 0 < c.maxOpBytes ∧ (1 ≤ c.minPeriodSeconds ∧ c.minPeriodSeconds ≤ c.maxPeriodSeconds) ∧
    Width.u64.Fits c.maxRewardRate

instance (c : Config) : Decidable c.Valid := inferInstanceAs (Decidable (_ ∧ _ ∧ (_ ∧ _) ∧ _))

/-- The configuration itself, or the first of its limits that is refused. -/
def check (c : Config) : Except Error Config := do
  require (0 < c.maxOps) (.config .maxOps)
  require (0 < c.maxOpBytes) (.config .maxOpBytes)
  require (1 ≤ c.minPeriodSeconds ∧ c.minPeriodSeconds ≤ c.maxPeriodSeconds) (.config .periodBounds)
  require (Width.u64.Fits c.maxRewardRate) (.config .maxRewardRate)
  return c

/-- The settings by name. -/
inductive Setting where
  | module | version | maxOps | maxOpBytes | minPeriodSeconds | maxPeriodSeconds | maxRewardRate | operatorPubkey
deriving DecidableEq, Repr

namespace Setting

/-- All settings. -/
def all : List Setting :=
  [.module, .version, .maxOps, .maxOpBytes, .minPeriodSeconds, .maxPeriodSeconds, .maxRewardRate, .operatorPubkey]

/-- The name of a setting. -/
def name : Setting → Text
  | .module => "module"
  | .version => "version"
  | .maxOps => "max_ops"
  | .maxOpBytes => "max_op_bytes"
  | .minPeriodSeconds => "min_period_seconds"
  | .maxPeriodSeconds => "max_period_seconds"
  | .maxRewardRate => "max_reward_rate"
  | .operatorPubkey => "operator_pubkey"

/-- The setting that a key names. -/
def ofKey? (key : Value) : Option Setting := all.find? fun s => key.sameKey (.text s.name)

/-- The integer for a setting. -/
def int (s : Setting) : Value → Except Error Int
  | .int n => .ok n
  | _ => .error (.config (.notInt s.name))

/-- The text for a setting, or null for none. -/
def text? (s : Setting) : Value → Except Error (Option Text)
  | .text t => .ok (some t)
  | .null => .ok none
  | _ => .error (.config (.notText s.name))

end Setting

/-- The configuration with one setting changed. -/
def change (c : Config) (s : Setting) (v : Value) : Except Error Config := do
  match s with
  | .module => return { c with module := ← s.text? v }
  | .version => return { c with version := ← s.text? v }
  | .maxOps => return { c with maxOps := ← s.int v }
  | .maxOpBytes => return { c with maxOpBytes := ← s.int v }
  | .minPeriodSeconds => return { c with minPeriodSeconds := ← s.int v }
  | .maxPeriodSeconds => return { c with maxPeriodSeconds := ← s.int v }
  | .maxRewardRate => return { c with maxRewardRate := ← s.int v }
  | .operatorPubkey => return { c with operatorPubkey := ← s.text? v }

/-- The configuration with the setting changed that an entry names. -/
def changeBy (c : Config) (entry : Value × Value) : Except Error Config :=
  match Setting.ofKey? entry.1 with
  | some s => c.change s entry.2
  | none => .ok c

/-- The items of a value as keys, each once; only values that can be members of a set are keys. -/
def keysOf (v : Value) : Except Error (List Value) := do
  let keys ← v.items
  require (∀ key ∈ keys, key.isKey = true) (.misuse .noMember)
  return Value.Entries.keys (Value.Entries.ofPairs (keys.map fun key => (key, .null)))

/-- The configuration that a value describes: a mapping with some of the settings. -/
def ofValue (v : Value) : Except Error Config := do
  let keys ← keysOf v
  requireNone (keys.filter fun key => (Setting.ofKey? key).isNone) fun sorted => .config (.unknown sorted)
  let entries ← v.entries
  let c ← entries.foldlM changeBy {}
  c.check

end Config

end YieldPool
