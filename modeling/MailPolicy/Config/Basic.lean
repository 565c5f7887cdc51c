/-
The configuration of the service, and the conditions that it has to meet.

Each part has defaults, so an empty configuration lacks nothing but stages.  The conditions are tested in a
fixed order and the first that fails is reported: thresholds, the time of a stage, back-off, pools, stages,
and then each check.

* `Config.validate` tests the conditions;
* `ConfigError.message` says what is wrong.
-/
import MailPolicy.Check.Settings
import MailPolicy.Decimal.Shortest
import MailPolicy.Fault
import MailPolicy.Pool.Basic
import MailPolicy.Verdict

namespace MailPolicy

/-- Where the service listens. -/
structure ServerSettings where
  bind : Text := "127.0.0.1:10040".toList
  /-- The most connections at a time. -/
  maxConnections : Nat := 256
  /-- Seconds within which a request must have been sent. -/
  readTimeout : Nat := 30
deriving DecidableEq, Repr, Inhabited

/-- What is logged. -/
structure LoggingSettings where
  level : Text := "info".toList
  format : Text := "text".toList
deriving DecidableEq, Repr, Inhabited

/-- How a request is decided. -/
structure PolicySettings where
  thresholds : Thresholds Float := ⟨3, 5⟩
  /-- Milliseconds that the checks of a stage may take. -/
  stageTimeout : Nat := 10000
  /-- Whether stages that cannot change the verdict are left out. -/
  shortCircuit : Bool := true
deriving Repr, Inhabited

/-- The actions that are answered. -/
structure Responses where
  allow : Text := "DUNNO".toList
  delay : Text := "DEFER_IF_PERMIT Service temporarily unavailable, try again later".toList
  block : Text := "REJECT Message rejected by sender reputation policy".toList
  /-- The answer to a request that could not be decided. -/
  error : Text := "DEFER_IF_PERMIT Policy service error".toList
deriving DecidableEq, Repr, Inhabited

/-- The settings of a stage. -/
structure StageSettings where
  name : Option Text := none
  checks : List CheckSettings := []
deriving Repr, Inhabited

/-- The configuration of the service. -/
structure Config where
  server : ServerSettings := {}
  logging : LoggingSettings := {}
  policy : PolicySettings := {}
  responses : Responses := {}
  /-- The back-off of checks that have none of their own. -/
  backoff : BackoffSettings := {}
  /-- The sizes of pools, by kind of check. -/
  pools : List (Text × PoolSettings) := []
  stages : List StageSettings := []
deriving Repr, Inhabited

/-- What is wrong with a configuration. -/
inductive ConfigError where
  /-- The text is no document, or its values are not of the right kinds. -/
  | malformed
  | thresholdsNotFinite
  /-- Mail would be delayed only from a total on that already blocks it. -/
  | thresholdsInverted (delay block : Text)
  | noStageTime
  /-- A back-off starts after no failure or lasts no time. -/
  | backoffTooSmall (owner : Text)
  /-- The longest back-off is shorter than the first. -/
  | ceilingBelowBase (owner : Text)
  /-- A pool has no worker or takes no task. -/
  | poolTooSmall (pool : Text)
  | noStages
  /-- A check of the stage with the given number has no name. -/
  | namelessCheck (stage : Nat) (kind : CheckKind)
deriving DecidableEq, Repr

namespace ConfigError

/-- The text of an error. -/
def message : ConfigError → String
  | malformed => "Failed to parse config"
  | thresholdsNotFinite => "thresholds must be finite"
  | thresholdsInverted delay block =>
    "delay_threshold " ++ String.ofList delay ++ " exceeds block_threshold " ++ String.ofList block
  | noStageTime => "stage_timeout_ms must be positive"
  | backoffTooSmall owner =>
    String.ofList owner ++ ": max_errors and base_back_off_secs must be at least 1"
  | ceilingBelowBase owner => String.ofList owner ++ ": max_back_off_secs is below base_back_off_secs"
  | poolTooSmall pool =>
    "pool " ++ String.ofList pool ++ ": max_workers and max_tasks must be at least 1"
  | noStages => "no stages configured"
  | namelessCheck stage kind =>
    "stage " ++ String.ofList (Text.decimal stage) ++ ": " ++ kind.name ++ " check without a name"

/-- The fault that an error is. -/
def fault (e : ConfigError) : Fault := ⟨.config, e.message⟩

end ConfigError

/-- What is wrong with back-off settings, if anything is. -/
def BackoffSettings.flaw? (s : BackoffSettings) (owner : Text) : Option ConfigError :=
  if s.maxErrors = 0 ∨ s.base = 0 then some (.backoffTooSmall owner)
  else if s.ceiling < s.base then some (.ceilingBelowBase owner)
  else none

/-- What is wrong with the way requests are decided, if anything is. -/
def PolicySettings.flaw? (s : PolicySettings) : Option ConfigError :=
  let t := s.thresholds
  if !t.delay.isFinite || !t.block.isFinite then some .thresholdsNotFinite
  else if t.delay > t.block then
    some (.thresholdsInverted (Decimal.render t.delay) (Decimal.render t.block))
  else if s.stageTimeout = 0 then some .noStageTime
  else none

/-- What is wrong with the size of a pool, if anything is. -/
def PoolSettings.flaw? (s : PoolSettings) (pool : Text) : Option ConfigError :=
  if s.maxWorkers = 0 ∨ s.maxTasks = 0 then some (.poolTooSmall pool) else none

/-- What is wrong with a check of the stage with the given number, if anything is. -/
def CheckSettings.flaw? (stage : Nat) (c : CheckSettings) : Option ConfigError :=
  if (Text.trim c.name).isEmpty then some (.namelessCheck stage c.kind)
  else c.backoff.bind (·.flaw? c.name)

/-- What is wrong with the stages, the first of them having the given number. -/
def StageSettings.flaw? (number : Nat) : List StageSettings → Option ConfigError
  | [] => none
  | s :: rest => (s.checks.findSome? (·.flaw? number)).or (flaw? (number + 1) rest)

namespace Config

/-- What is wrong with a configuration, if anything is. -/
def flaw? (c : Config) : Option ConfigError :=
  c.policy.flaw?
    |>.or (c.backoff.flaw? "backoff".toList)
    |>.or (c.pools.findSome? fun (name, pool) => pool.flaw? name)
    |>.or (if c.stages.isEmpty then some .noStages else none)
    |>.or (StageSettings.flaw? 1 c.stages)

/-- The configuration itself, if it meets every condition. -/
def validate (c : Config) : Except ConfigError Config :=
  match c.flaw? with
  | some e => .error e
  | none => .ok c

/-- The size of the pool for a kind of check. -/
def poolFor (c : Config) (kind : Text) : PoolSettings := (c.pools.lookup kind).getD {}

theorem flaw?_of_validate {c d : Config} (h : c.validate = .ok d) : d = c ∧ c.flaw? = none := by
  unfold validate at h
  split at h
  · exact absurd h (by simp)
  · rename_i hn
    exact ⟨(Except.ok.inj h).symm, hn⟩

end Config
end MailPolicy
