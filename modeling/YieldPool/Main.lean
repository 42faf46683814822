import YieldPool.Replay

/-!
# Command line

Replays a file of transactions and prints what the replay writes. A configuration file holds one JSON document, and
four environment variables override settings.
-/

namespace YieldPool.CommandLine

/-- What the arguments ask for. -/
structure Options where
  replay : Option String := none
  config : Option String := none
  snapshot : Bool := false

/-- The options that arguments give, after those given before. A level of logging is accepted, but nothing is logged. -/
def Options.ofArguments? (o : Options) : List String → Option Options
  | [] => some o
  | "--snapshot" :: rest => Options.ofArguments? { o with snapshot := true } rest
  | "--config" :: path :: rest => Options.ofArguments? { o with config := some path } rest
  | "--log-level" :: _ :: rest => Options.ofArguments? o rest
  | path :: rest =>
    if path.startsWith "-" || o.replay.isSome then none else Options.ofArguments? { o with replay := some path } rest

/-- How to call the program. -/
def usage : String := "usage: yieldpool [--config FILE] [--log-level LEVEL] [--snapshot] REPLAY"

/-- The content of a configuration file: a document, or nothing in a blank file. -/
def fileContent (text : String) : Except Error Value :=
  let t := Text.ofString text
  if t.all CodePoint.isBlank then .ok .null else Replay.documentOf t

/-- The environment variables that override settings. -/
def environment : IO Environment := do
  let given (name : String) : IO (Option Text) := do return (← IO.getEnv name).map Text.ofString
  return {
    maxOps := ← given "FARM_MAX_OPS"
    minPeriodSeconds := ← given "FARM_MIN_PERIOD_SECONDS"
    maxPeriodSeconds := ← given "FARM_MAX_PERIOD_SECONDS"
    operatorPubkey := ← given "FARM_OPERATOR_PUBKEY" }

/-- Writes what stopped a replay, and yields the exit code of a failure. -/
def fail (e : Error) : IO UInt32 := do
  IO.eprintln ((e.message?.getD "malformed input").toString)
  return 1

/-- Replays a file. -/
def perform (o : Options) (path : String) : IO UInt32 := do
  let file ← match o.config with
    | some path => do
      match fileContent (← IO.FS.readFile path) with
      | .ok content => pure (some content)
      | .error e => return ← fail e
    | none => pure none
  let document := Replay.documentOf (Text.ofString (← IO.FS.readFile path))
  let (lines, failure) := Replay.perform file (← environment) o.snapshot document
  IO.print (Replay.written lines).toString
  match failure with
  | some e => fail e
  | none => return 0

end YieldPool.CommandLine

open YieldPool CommandLine in
/-- The program: the arguments name a file of transactions and options. -/
def main (arguments : List String) : IO UInt32 := do
  match Options.ofArguments? {} arguments with
  | some o =>
    match o.replay with
    | some path => perform o path
    | none =>
      IO.eprintln usage
      return 2
  | none =>
    IO.eprintln usage
    return 2
