import Mathlib.Data.List.TakeWhile
import YieldPool.Config.Environment
import YieldPool.Proofs.Refusal

/-!
# What the environment does to a configuration

The configuration of a file is valid, and the variables of the environment turn it into a valid one again, setting by
setting (`Environment.Overridden`), unless the bounds of the longest period cross: the shortest period of the file is
beyond the upper bound, and a number not below it is given for the longest (`Environment.Crossed`). Such a number is
moved below the shortest period, and the configuration is refused (`Config.load_eq_ok_iff_not_crossed`).
-/

namespace YieldPool

/-- Nothing is left of a text without its blanks exactly if it has only blanks. -/
theorem Text.trim_eq_nil_iff {blank : CodePoint → Bool} {t : Text} : t.trim blank = [] ↔ ∀ c ∈ t, blank c = true := by
  rw [trim, List.reverse_eq_nil_iff, List.dropWhile_eq_nil_iff]
  constructor
  · intro rest c member
    rw [← List.takeWhile_append_dropWhile (p := blank) (l := t)] at member
    rcases List.mem_append.mp member with first | left
    · exact List.mem_takeWhile_imp first
    · exact rest c (List.mem_reverse.mpr left)
  · intro all c member
    exact all c ((List.dropWhile_sublist blank).mem (List.mem_reverse.mp member))

namespace Environment

/-! ## Variables -/

/-- A variable is not set, or blank. -/
def Silent (given : Option Text) : Prop := ∀ t, given = some t → ∀ c ∈ t, c.isBlank = true

/-- A variable is not set, blank, or not a number. -/
def NoNumber (given : Option Text) : Prop :=
  ∀ t, given = some t → (∀ c ∈ t, c.isBlank = true) ∨ (t.trim CodePoint.isBlank).int? = none

/-- The number that a variable is set to. -/
def number? (given : Option Text) : Option Int := (stripped? given).bind Text.int?

/-- A variable that is set counts without the blanks around it, and not at all if it is blank. -/
theorem stripped?_some (t : Text) :
    stripped? (some t) = if (t.trim CodePoint.isBlank).isEmpty then none else some (t.trim CodePoint.isBlank) := rfl

/-- A variable counts for nothing exactly if it is not set or blank. -/
theorem stripped?_eq_none_iff {given : Option Text} : stripped? given = none ↔ Silent given := by
  cases given with
  | none => exact iff_of_true rfl nofun
  | some t => simp [stripped?_some, Silent, Text.trim_eq_nil_iff]

/-- A variable gives no number exactly if it is not set, blank or not a number. -/
theorem number?_eq_none_iff {given : Option Text} : number? given = none ↔ NoNumber given := by
  cases given with
  | none => exact iff_of_true rfl nofun
  | some t =>
    rw [number?, stripped?_some]
    by_cases blank : t.trim CodePoint.isBlank = []
    · have silent := Text.trim_eq_nil_iff.mp blank
      simp only [blank, List.isEmpty_nil, if_true, Option.bind_none, true_iff]
      rintro _ ⟨⟩
      exact Or.inl silent
    · simp [NoNumber, blank, mt Text.trim_eq_nil_iff.mpr blank]

/-- A variable does not give a number and none. -/
theorem not_noNumber {given : Option Text} {n : Int} (h : number? given = some n) : ¬NoNumber given := by
  intro none
  rw [number?_eq_none_iff.mpr none] at h
  cases h

/-- A variable gives a number or none. -/
theorem noNumber_or_number (given : Option Text) : NoNumber given ∨ ∃ n, number? given = some n := by
  cases found : number? given with
  | none => exact Or.inl (number?_eq_none_iff.mp found)
  | some n => exact Or.inr ⟨n, rfl⟩

section Bounded

variable {given : Option Text} {unset least greatest : Int}

/-- Without a number a setting stays what it was. -/
theorem bounded_of_noNumber (h : NoNumber given) : bounded given unset least greatest = unset := by
  have none : (stripped? given).bind Text.int? = none := number?_eq_none_iff.mpr h
  simp only [bounded, none]

/-- A number takes the place of a setting, and the lower bound goes before the upper one. -/
theorem bounded_of_number {n : Int} (h : number? given = some n) :
    bounded given unset least greatest = if n < least then least else if greatest < n then greatest else n := by
  have some : (stripped? given).bind Text.int? = some n := h
  simp only [bounded, some]

/-- A setting that was not below the lower bound gets below it only if the bounds cross below the number given. -/
theorem bounded_lt_iff (h : least ≤ unset) :
    bounded given unset least greatest < least ↔ greatest < least ∧ ∃ n, number? given = some n ∧ least ≤ n := by
  rcases noNumber_or_number given with none | ⟨n, some⟩
  · rw [bounded_of_noNumber none, number?_eq_none_iff.mpr none]
    simp [h]
  · rw [bounded_of_number some, some]
    simp only [Option.some.injEq, exists_eq_left']
    split
    · omega
    · split <;> omega

/-- A setting with a lower bound of one stays at least one, as the upper bound leaves room. -/
theorem one_le_bounded (h : 1 ≤ unset) (room : 1 ≤ greatest) : 1 ≤ bounded given unset 1 greatest := by
  by_contra below
  obtain ⟨crossed, -⟩ := (bounded_lt_iff h).mp (Int.not_le.mp below)
  omega

/-- A number that is given never leads beyond an upper bound that is not below the lower one. -/
theorem bounded_le_of_number {n : Int} (h : number? given = some n) (room : least ≤ greatest) :
    bounded given unset least greatest ≤ greatest := by
  rw [bounded_of_number h]
  split
  · exact room
  · split <;> omega

end Bounded

/-- What a variable makes of a setting: without a number of its own it leaves it, and its number takes its place, moved
between the bounds. -/
structure Moves (given : Option Text) (least greatest unset result : Int) : Prop where
  kept : NoNumber given → result = unset
  moved : ∀ n, number? given = some n → result = max least (min n greatest)

/-- A setting is what its variable makes of it, unless the bounds cross below the number given. -/
theorem moves_bounded {given : Option Text} {unset least greatest : Int}
    (h : ∀ n, number? given = some n → least ≤ greatest ∨ n < least) :
    Moves given least greatest unset (bounded given unset least greatest) where
  kept := bounded_of_noNumber
  moved := by
    intro n some
    rw [bounded_of_number some]
    rcases h n some with apart | below
    · split
      · omega
      · split <;> omega
    · rw [if_pos below]
      omega

/-! ## Configurations -/

/-- The settings with the variables applied, before they are checked. -/
def overrides (e : Environment) (c : Config) : Config :=
  let shortest := bounded e.minPeriodSeconds c.minPeriodSeconds 1 Width.u64.greatest
  { c with
    maxOps := bounded e.maxOps c.maxOps 1 4096
    minPeriodSeconds := shortest
    maxPeriodSeconds := bounded e.maxPeriodSeconds (max c.maxPeriodSeconds shortest) shortest Width.u64.greatest
    operatorPubkey := stripped? e.operatorPubkey <|> c.operatorPubkey }

/-- The variables are applied first, and what comes of it is checked. -/
theorem apply_eq_check (e : Environment) (c : Config) : e.apply c = (e.overrides c).check := rfl

/-- A configuration is another one with the variables applied, setting by setting. -/
structure Overridden (e : Environment) (c r : Config) : Prop where
  maxOps : Moves e.maxOps 1 4096 c.maxOps r.maxOps
  shortest : Moves e.minPeriodSeconds 1 Width.u64.greatest c.minPeriodSeconds r.minPeriodSeconds
  /-- The longest period is raised to the shortest one where it would be below it. -/
  longest : Moves e.maxPeriodSeconds r.minPeriodSeconds Width.u64.greatest
    (max c.maxPeriodSeconds r.minPeriodSeconds) r.maxPeriodSeconds
  operator_kept : Silent e.operatorPubkey → r.operatorPubkey = c.operatorPubkey
  operator_set : ∀ t, e.operatorPubkey = some t → ¬Silent (some t) →
    r.operatorPubkey = some (t.trim CodePoint.isBlank)
  others : r.module = c.module ∧ r.version = c.version ∧ r.maxOpBytes = c.maxOpBytes ∧
    r.maxRewardRate = c.maxRewardRate

/-- The bounds of the longest period cross: no variable moves the shortest period, which is beyond the upper bound, and
a number not below it is given for the longest. -/
def Crossed (e : Environment) (c : Config) : Prop :=
  NoNumber e.minPeriodSeconds ∧ Width.u64.greatest < c.minPeriodSeconds ∧
    ∃ n, number? e.maxPeriodSeconds = some n ∧ c.minPeriodSeconds ≤ n

/-- A shortest period that is given is not beyond the upper bound, so only one that is kept can be. -/
theorem crossed_iff {e : Environment} {c : Config} :
    Crossed e c ↔ Width.u64.greatest < (e.overrides c).minPeriodSeconds ∧
      ∃ n, number? e.maxPeriodSeconds = some n ∧ (e.overrides c).minPeriodSeconds ≤ n := by
  simp only [Crossed, overrides]
  rcases noNumber_or_number e.minPeriodSeconds with none | ⟨n, some⟩
  · rw [bounded_of_noNumber none]
    simp only [none, true_and]
  · have within : bounded e.minPeriodSeconds c.minPeriodSeconds 1 Width.u64.greatest ≤ Width.u64.greatest :=
      bounded_le_of_number some (by decide)
    constructor
    · rintro ⟨none, -⟩
      exact absurd none (not_noNumber some)
    · rintro ⟨beyond, -⟩
      omega

/-- The longest period falls below the shortest one exactly if its bounds cross. -/
theorem longest_lt_shortest_iff {e : Environment} {c : Config} :
    (e.overrides c).maxPeriodSeconds < (e.overrides c).minPeriodSeconds ↔ Crossed e c :=
  (bounded_lt_iff (Int.le_max_right ..)).trans crossed_iff.symm

/-- The variables leave a valid configuration within all bounds but those between the two periods. -/
theorem bounds_overrides (e : Environment) {c : Config} (valid : c.Valid) :
    0 < (e.overrides c).maxOps ∧ 0 < (e.overrides c).maxOpBytes ∧ 1 ≤ (e.overrides c).minPeriodSeconds ∧
      Width.u64.Fits (e.overrides c).maxRewardRate := by
  obtain ⟨someOps, someBytes, ⟨positive, -⟩, rate⟩ := valid
  have operations : 1 ≤ (e.overrides c).maxOps := one_le_bounded someOps (by decide)
  have shortest : 1 ≤ (e.overrides c).minPeriodSeconds := one_le_bounded positive (by decide)
  exact ⟨operations, someBytes, shortest, rate⟩

/-- The variables leave a valid configuration valid exactly if the bounds of the longest period do not cross. -/
theorem valid_overrides_iff {e : Environment} {c : Config} (valid : c.Valid) :
    (e.overrides c).Valid ↔ ¬Crossed e c := by
  obtain ⟨operations, bytes, shortest, rate⟩ := bounds_overrides e valid
  rw [← longest_lt_shortest_iff, Int.not_lt]
  constructor
  · rintro ⟨-, -, ⟨-, ordered⟩, -⟩
    exact ordered
  · intro ordered
    exact ⟨operations, bytes, ⟨shortest, ordered⟩, rate⟩

/-- As long as the bounds do not cross, each setting is what its variable makes of it. -/
theorem overridden_overrides {e : Environment} {c : Config} (apart : ¬Crossed e c) :
    Overridden e c (e.overrides c) where
  maxOps := moves_bounded fun _ _ => Or.inl (by decide)
  shortest := moves_bounded fun _ _ => Or.inl (by decide)
  longest := by
    refine moves_bounded fun n given => ?_
    rw [crossed_iff] at apart
    by_cases beyond : Width.u64.greatest < (e.overrides c).minPeriodSeconds
    · exact Or.inr (Int.not_le.mp fun le => apart ⟨beyond, n, given, le⟩)
    · exact Or.inl (Int.not_lt.mp beyond)
  operator_kept := by
    intro silent
    simp [overrides, stripped?_eq_none_iff.mpr silent]
  operator_set := by
    intro t given loud
    have some : t.trim CodePoint.isBlank ≠ [] := by
      intro none
      refine loud fun u same => ?_
      cases same
      exact Text.trim_eq_nil_iff.mp none
    simp [overrides, given, stripped?_some, some]
  others := ⟨rfl, rfl, rfl, rfl⟩

end Environment

namespace Config

/-- A configuration passes its check unchanged, and exactly if it is valid. -/
theorem check_eq_ok_iff {c r : Config} : c.check = .ok r ↔ c.Valid ∧ c = r := by
  simp only [check, bind_eq_ok_iff, require_eq_ok_iff, exists_const, Valid, and_assoc, pure, Except.pure,
    Except.ok.injEq]

/-- Periods out of order are what is named, once the settings checked before them pass. -/
theorem check_eq_periodBounds {c : Config} (operations : 0 < c.maxOps) (bytes : 0 < c.maxOpBytes)
    (disordered : c.maxPeriodSeconds < c.minPeriodSeconds) : c.check = .error (.config .periodBounds) := by
  have unordered : ¬(1 ≤ c.minPeriodSeconds ∧ c.minPeriodSeconds ≤ c.maxPeriodSeconds) := by
    omega
  simp [check, require, operations, bytes, unordered, bind, Except.bind]

/-- The configuration of a file is valid. -/
theorem valid_of_ofFile {file : Option Value} {c : Config} (accepted : ofFile file = .ok c) : c.Valid := by
  unfold ofFile at accepted
  split at accepted
  · cases accepted
    decide
  · cases accepted
    decide
  · simp only [ofValue, bind_eq_ok_iff, check_eq_ok_iff] at accepted
    obtain ⟨_, -, _, -, _, -, _, -, _, -, valid, rfl⟩ := accepted
    exact valid

/-- With a file that is accepted, the variables of the environment are refused exactly if the bounds of the longest
period cross, and then for these bounds. Otherwise they make a valid configuration, setting by setting. -/
theorem load_eq_ok_iff_not_crossed {file : Option Value} {c : Config} (accepted : ofFile file = .ok c)
    (e : Environment) :
    ((∃ r, load file e = .ok r) ↔ ¬e.Crossed c) ∧
      (∀ r, load file e = .ok r → r.Valid ∧ e.Overridden c r) ∧
      (e.Crossed c → load file e = .error (.config .periodBounds)) := by
  have loaded : load file e = (e.overrides c).check := by
    rw [load, accepted, ← Environment.apply_eq_check]
    rfl
  have valid := valid_of_ofFile accepted
  have kept := Environment.valid_overrides_iff (e := e) valid
  rw [loaded]
  refine ⟨?_, ?_, ?_⟩
  · simp only [check_eq_ok_iff, exists_and_left, exists_eq', and_true, kept]
  · intro r passed
    obtain ⟨fits, rfl⟩ := check_eq_ok_iff.mp passed
    exact ⟨fits, Environment.overridden_overrides (kept.mp fits)⟩
  · intro crossed
    obtain ⟨operations, bytes, -⟩ := Environment.bounds_overrides e valid
    exact check_eq_periodBounds operations bytes (Environment.longest_lt_shortest_iff.mpr crossed)

/-- A file with one period only, which is beyond the upper bound. -/
def onePeriod : Value.Entries :=
  [(.text "min_period_seconds", .int 18446744073709551616), (.text "max_period_seconds", .int 18446744073709551616)]

/-- The longest period of that file, given once more. -/
def onceMore : Environment := { maxPeriodSeconds := some "18446744073709551616" }

/-- The longest period cannot be given once more, unless a shortest period is given that is within the bounds. -/
theorem load_eq_ok_iff_not_crossed_onceMore :
    load (some (.dictionary onePeriod)) onceMore = .error (.config .periodBounds) ∧
      ∃ r, load (some (.dictionary onePeriod)) { onceMore with minPeriodSeconds := some " 86_400" } = .ok r ∧
        r.minPeriodSeconds = 86400 ∧ r.maxPeriodSeconds = 18446744073709551615 := by
  have accepted : ofFile (some (.dictionary onePeriod)) = .ok
      { minPeriodSeconds := 18446744073709551616, maxPeriodSeconds := 18446744073709551616 } := by
    rfl
  have longest : Environment.number? onceMore.maxPeriodSeconds = some 18446744073709551616 := by
    rfl
  have shortest : Environment.number? (some " 86_400") = some 86400 := by
    rfl
  constructor
  · refine (load_eq_ok_iff_not_crossed accepted onceMore).2.2 ⟨?_, by decide, _, longest, Int.le_refl _⟩
    rintro _ ⟨⟩
  · obtain ⟨loads, overridden, -⟩ :=
      load_eq_ok_iff_not_crossed accepted { onceMore with minPeriodSeconds := some " 86_400" }
    have apart : ¬Environment.Crossed { onceMore with minPeriodSeconds := some " 86_400" }
        { minPeriodSeconds := 18446744073709551616, maxPeriodSeconds := 18446744073709551616 } := by
      rintro ⟨none, -⟩
      exact Environment.not_noNumber shortest none
    obtain ⟨r, loaded⟩ := loads.mpr apart
    obtain ⟨-, settings⟩ := overridden r loaded
    have least := settings.shortest.moved _ shortest
    have greatest := settings.longest.moved _ longest
    rw [least] at greatest
    exact ⟨r, loaded, least, greatest⟩

/-- A valid file is refused, although the variables only repeat what it says. -/
theorem load_refuses_repeated_longest :
    (∃ c, ofFile (some (.dictionary onePeriod)) = .ok c ∧ c.Valid) ∧
      load (some (.dictionary onePeriod)) onceMore = .error (.config .periodBounds) := by
  constructor
  · exact ⟨_, rfl, by decide⟩
  · rfl

end Config

end YieldPool
