/-
Reading a configuration from a document.

A record is written as a table, whose keys are the names of its parts, or as an array of the parts in their
order.  What is left out has its default, except that a part which is simply absent by default may be left
out of a table only.  Keys that nothing asks for do not matter.  A check is a table with a key `type` or an
array that starts with the type; within a check an array must not be longer than the record.

* `Settings.Record.part?` finds a part of a record, `part`, `optional` and `partOr` read one;
* `Config.read` reads a configuration and tests it.
-/
import MailPolicy.Config.Basic
import MailPolicy.Toml.Reader

namespace MailPolicy

namespace Settings

open Toml (Value)

/-- A record in a document. -/
inductive Record where
  /-- With its parts by name. -/
  | named (entries : List (Text × Value))
  /-- With its parts in order. -/
  | ordered (items : List Value)

/-- What reads a value, unless it is of the wrong kind. -/
abbrev Reader (α : Type) := Value → Option α

namespace Record

/-- The record that a value is.  A date is a record none of whose parts has a known name. -/
def ofValue? : Reader Record
  | .table _ entries => some (.named entries)
  | .array _ items => some (.ordered items)
  | .dateTime _ => some (.named [])
  | _ => none

/-- The part with the given name, at the given place. -/
def part? (r : Record) (place : Nat) (name : String) : Option Value :=
  match r with
  | named entries => entries.lookup name.toList
  | ordered items => items[place]?

/-- Reads a part that must be there. -/
def part {α : Type} (read : Reader α) (place : Nat) (name : String) (r : Record) : Option α :=
  (r.part? place name).bind read

/-- Reads a part that has a default. -/
def partOr {α : Type} (read : Reader α) (place : Nat) (name : String) (default : α) (r : Record) : Option α :=
  match r.part? place name with
  | some v => read v
  | none => some default

/-- Reads a part that may be absent, though not from the middle or the end of an array. -/
def optional {α : Type} (read : Reader α) (place : Nat) (name : String) (r : Record) : Option (Option α) :=
  match r, r.part? place name with
  | _, some v => (read v).map some
  | named _, none => some none
  | ordered _, none => none

/-- The record, if it has no more than the given number of parts in order. -/
def atMost (count : Nat) (r : Record) : Option Record :=
  match r with
  | ordered items => if items.length ≤ count then some r else none
  | named _ => some r

end Record

/-! ### Simple values -/

/-- Reads a text. -/
def text : Reader Text
  | .string t => some t
  | _ => none

/-- Reads a truth value. -/
def boolean : Reader Bool
  | .boolean b => some b
  | _ => none

/-- Reads a natural number below the limit. -/
def naturalBelow (limit : Nat) : Reader Nat
  | .integer n => if 0 ≤ n ∧ n < limit then some n.toNat else none
  | _ => none

/-- Reads a natural number. -/
def natural : Reader Nat := naturalBelow 0x10000000000000000

/-- Reads a number. -/
def float : Reader Float
  | .float x => some x
  | .integer n => some (Decimal.nearest (n < 0) n.natAbs 0)
  | _ => none

/-- Reads an array of things. -/
def many {α : Type} (read : Reader α) : Reader (List α)
  | .array _ items => items.mapM read
  | _ => none

/-- Reads a field: its name, or a table with an empty table under that name and nothing else. -/
def field : Reader Field
  | .string t => Field.ofName? (String.ofList t)
  | .table _ [(name, .table _ [])] => Field.ofName? (String.ofList name)
  | _ => none

/-! ### Records -/

/-- Reads where the service listens. -/
def server (v : Value) : Option ServerSettings := do
  let r ← Record.ofValue? v
  let d : ServerSettings := {}
  return {
    bind := ← r.partOr text 0 "bind" d.bind
    maxConnections := ← r.partOr natural 1 "max_connections" d.maxConnections
    readTimeout := ← r.partOr natural 2 "read_timeout_secs" d.readTimeout }

/-- Reads what is logged. -/
def logging (v : Value) : Option LoggingSettings := do
  let r ← Record.ofValue? v
  let d : LoggingSettings := {}
  return {
    level := ← r.partOr text 0 "level" d.level
    format := ← r.partOr text 1 "format" d.format }

/-- Reads how requests are decided. -/
def policy (v : Value) : Option PolicySettings := do
  let r ← Record.ofValue? v
  let d : PolicySettings := {}
  return {
    thresholds := {
      delay := ← r.partOr float 0 "delay_threshold" d.thresholds.delay
      block := ← r.partOr float 1 "block_threshold" d.thresholds.block }
    stageTimeout := ← r.partOr natural 2 "stage_timeout_ms" d.stageTimeout
    shortCircuit := ← r.partOr boolean 3 "short_circuit" d.shortCircuit }

/-- Reads the actions that are answered. -/
def responses (v : Value) : Option Responses := do
  let r ← Record.ofValue? v
  let d : Responses := {}
  return {
    allow := ← r.partOr text 0 "allow" d.allow
    delay := ← r.partOr text 1 "delay" d.delay
    block := ← r.partOr text 2 "block" d.block
    error := ← r.partOr text 3 "error" d.error }

/-- Reads back-off settings from a record. -/
def backoffOf (r : Record) : Option BackoffSettings := do
  let d : BackoffSettings := {}
  return {
    timeFrame := ← r.partOr natural 0 "time_frame_secs" d.timeFrame
    maxErrors := ← r.partOr (naturalBelow 0x100000000) 1 "max_errors" d.maxErrors
    base := ← r.partOr natural 2 "base_back_off_secs" d.base
    ceiling := ← r.partOr natural 3 "max_back_off_secs" d.ceiling }

/-- Reads the back-off settings that hold for all checks. -/
def backoff (v : Value) : Option BackoffSettings := (Record.ofValue? v).bind backoffOf

/-- Reads the back-off settings of a check. -/
def ownBackoff (v : Value) : Option BackoffSettings := ((Record.ofValue? v).bind (·.atMost 4)).bind backoffOf

/-- Reads the size of a pool. -/
def pool (v : Value) : Option PoolSettings := do
  let r ← Record.ofValue? v
  let d : PoolSettings := {}
  return {
    maxWorkers := ← r.partOr natural 0 "max_workers" d.maxWorkers
    maxIdle := ← r.partOr natural 1 "max_idle_workers" d.maxIdle
    maxTasks := ← r.partOr natural 2 "max_tasks" d.maxTasks
    idleTimeout := ← r.partOr natural 3 "idle_timeout_ms" d.idleTimeout }

/-- Reads the sizes of pools. -/
def pools : Reader (List (Text × PoolSettings))
  | .table _ entries => entries.mapM fun (name, v) => (pool v).map (name, ·)
  | _ => none

/-! ### Checks -/

/-- Reads a row of a weight table. -/
def weightRow (v : Value) : Option WeightRow := do
  let r ← (← Record.ofValue? v).atMost 2
  return { network := ← r.part text 0 "network", weight := ← r.part float 1 "weight" }

/-- Reads the settings of a reputation list. -/
def blockList (r : Record) : Option BlockListSettings := do
  let r ← r.atMost 6
  return {
    name := ← r.part text 0 "name"
    zone := ← r.part text 1 "zone"
    field := ← r.optional field 2 "field"
    weight := ← r.optional float 3 "weight"
    weights := ← r.partOr (many weightRow) 4 "weights" []
    backoff := ← r.optional ownBackoff 5 "backoff" }

/-- Reads the settings of a sender policy check. -/
def spf (r : Record) : Option SpfSettings := do
  let r ← r.atMost 8
  return {
    name := ← r.part text 0 "name"
    weights := {
      pass := ← r.partOr float 1 "pass" 0
      fail := ← r.partOr float 2 "fail" 0
      softfail := ← r.partOr float 3 "softfail" 0
      neutral := ← r.partOr float 4 "neutral" 0
      none := ← r.partOr float 5 "none" 0
      permerror := ← r.partOr float 6 "permerror" 0 }
    backoff := ← r.optional ownBackoff 7 "backoff" }

/-- Reads the weights of a hit and a miss, the first at the given place. -/
def hitMiss (place : Nat) (r : Record) : Option (HitMiss Float) := do
  return {
    hit := ← r.part float place "weight"
    miss := ← r.optional float (place + 1) "miss_weight" }

/-- Reads the settings of a list of values. -/
def valueList (r : Record) : Option ValueListSettings := do
  let r ← r.atMost 6
  return {
    name := ← r.part text 0 "name"
    field := ← r.part field 1 "field"
    values := ← r.part (many text) 2 "values"
    caseSensitive := ← r.partOr boolean 3 "case_sensitive" false
    weights := ← hitMiss 4 r }

/-- Reads the settings of a regular expression check. -/
def pattern (r : Record) : Option PatternSettings := do
  let r ← r.atMost 5
  return {
    name := ← r.part text 0 "name"
    field := ← r.part field 1 "field"
    pattern := ← r.part text 2 "pattern"
    weights := ← hitMiss 3 r }

/-- Reads the settings of a look-up in a file. -/
def keyFile (r : Record) : Option KeyFileSettings := do
  let r ← r.atMost 6
  return {
    name := ← r.part text 0 "name"
    field := ← r.part field 1 "field"
    path := ← r.part text 2 "path"
    weights := ← hitMiss 3 r
    backoff := ← r.optional ownBackoff 5 "backoff" }

/-- Reads the settings of a check of the given kind. -/
def checkOf (kind : CheckKind) (r : Record) : Option CheckSettings :=
  match kind with
  | .dnsbl => (blockList r).map .dnsbl
  | .rhsbl => (blockList r).map .rhsbl
  | .spf => (spf r).map .spf
  | .str => (valueList r).map .str
  | .pcre => (pattern r).map .pcre
  | .hash => (keyFile r).map .hash

/-- Reads the word for a kind of check. -/
def kind (v : Value) : Option CheckKind := (text v).bind fun t => CheckKind.ofName? (String.ofList t)

/-- Reads the settings of a check. -/
def check (v : Value) : Option CheckSettings := do
  match ← Record.ofValue? v with
  | .named entries => checkOf (← (entries.lookup "type".toList).bind kind) (.named entries)
  | .ordered (first :: items) => checkOf (← kind first) (.ordered items)
  | .ordered [] => none

/-! ### The whole -/

/-- Reads the settings of a stage. -/
def stage (v : Value) : Option StageSettings := do
  let r ← Record.ofValue? v
  return {
    name := ← r.optional text 0 "name"
    checks := ← r.partOr (many check) 1 "checks" [] }

/-- Reads a configuration from the entries of a document, without testing it. -/
def config (entries : Toml.Entries) : Option Config := do
  let r := Record.named entries
  return {
    server := ← r.partOr server 0 "server" {}
    logging := ← r.partOr logging 1 "logging" {}
    policy := ← r.partOr policy 2 "policy" {}
    responses := ← r.partOr responses 3 "responses" {}
    backoff := ← r.partOr backoff 4 "backoff" {}
    pools := ← r.partOr pools 5 "pools" []
    stages := ← r.partOr (many stage) 6 "stages" [] }

end Settings

/-- Reads a configuration from a text and tests it. -/
def Config.read (s : Text) : Except ConfigError Config :=
  match (Toml.read? s).bind Settings.config with
  | some c => c.validate
  | none => .error .malformed

end MailPolicy
