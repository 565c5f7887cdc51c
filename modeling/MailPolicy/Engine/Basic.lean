/-
The engine: stages, pools and the state in which they work.

A check that answers at once writes its slot when it is evaluated; a check in the background takes a guard of
the score and queues a probe, unless its resource is to be left alone.  After all checks of a stage have been
evaluated the request waits for the guards, and only then do the workers of the pools get their turns.  Time
passes from one timer to the next while everyone waits.  A probe that no pool takes, or a wait that lasts too
long, fails the request.

* `Engine.build` builds an engine and its first state from a configuration;
* `EngineState.evaluate` evaluates a check, `EngineState.wait` waits for the guards of a request;
* `Engine.decide` decides a request;
* `EngineState.shutDown` lets the pools work off what they accepted.
-/
import MailPolicy.Engine.Decision
import MailPolicy.Engine.Probe

namespace MailPolicy

/-- The stages of a configuration and what comes of them. -/
structure Engine where
  stages : List (PlacedStage Check Float)
  policy : PolicySettings
  responses : Responses

/-- The state of an engine. -/
structure EngineState where
  bench : Bench
  /-- The pools, in the order in which their kinds of checks first came. -/
  crews : List (CheckKind × Crew Probe) := []
  /-- The time by which timers run. -/
  clock : Nat
  /-- Comparisons of file stamps that have been claimed, by slot and time. -/
  claims : List (Nat × Nat) := []

namespace EngineState

/-- The state with no record of what was asked. -/
def forgetAsked (s : EngineState) : EngineState := { s with bench := s.bench.forgetAsked }

/-- The state later by the clock that failures are counted by. -/
def postpone (s : EngineState) (millis : Nat) : EngineState :=
  { s with bench := { s.bench with now := s.bench.now + millis } }

/-! ### Pools -/

/-- The pools after each has had its turns at the instant `clock`. -/
def settleCrews (net : Network) (clock : Nat) :
    List (CheckKind × Crew Probe) → Bench → List (CheckKind × Crew Probe) × Bench
  | [], b => ([], b)
  | (kind, crew) :: rest, b =>
    let (crew, b) := crew.settle (Probe.handler net) clock b
    let (rest, b) := settleCrews net clock rest b
    ((kind, crew) :: rest, b)

/-- Lets all workers go on until they are blocked. -/
def settle (net : Network) (s : EngineState) : EngineState :=
  let (crews, bench) := settleCrews net s.clock s.crews s.bench
  { s with crews := crews, bench := bench }

/-- The next instant at which a worker goes on by himself. -/
def nextTimer? (s : EngineState) : Option Nat := (s.crews.filterMap fun (_, c) => c.nextTimer? s.clock).min?

/-- Sets the pool for a kind of checks. -/
def setCrew (s : EngineState) (kind : CheckKind) (crew : Crew Probe) : EngineState :=
  { s with crews := s.crews.map fun (k, c) => if k = kind then (k, crew) else (k, c) }

/-- Takes a guard and queues a probe; a probe that is refused gives its guard back. -/
def dispatch (s : EngineState) (name : Text) (kind : CheckKind) (p : Probe) :
    Except CheckError Unit × EngineState :=
  let locked := { s with bench := s.bench.lock p.request p.slot }
  match s.crews.lookup kind with
  | none => (.ok (), s)
  | some crew =>
    match crew.submit p with
    | .ok crew => (.ok (), locked.setCrew kind crew)
    | .error e =>
      (.error (.rejected name e), { s with bench := locked.bench.unlock p.request p.slot })

/-! ### Checks -/

/-- Writes what a check adds at once, if it adds anything. -/
def record (s : EngineState) (request slot : Nat) (points : Option Float) : EngineState :=
  match points with
  | some x => { s with bench := s.bench.update request slot x }
  | none => s

/-- Evaluates the look-up in a file of keys.  The keys at hand decide; if a comparison of stamps is due it is
claimed, and made when the request is over. -/
def evaluateKeyFile (s : EngineState) (request slot : Nat) (c : KeyCheck) (r : Request) : EngineState :=
  match s.bench.memory slot with
  | .keys file =>
    if (r.field? c.field).isSome then
      let s :=
        match file.claim? s.bench.now with
        | some claimed =>
          { s with
            bench := s.bench.setMemory slot (.keys claimed)
            claims := s.claims ++ [(slot, s.bench.now)] }
        | none => s
      s.record request slot (c.weight? file r)
    else s
  | _ => s

/-- Evaluates a check into a slot. -/
def evaluate (s : EngineState) (request slot : Nat) (c : Check) (r : Request) :
    Except CheckError Unit × EngineState :=
  match c with
  | .valueList c => (.ok (), s.record request slot (c.weight? r))
  | .pattern c => (.ok (), s.record request slot (c.weight? r))
  | .keyFile c => (.ok (), s.evaluateKeyFile request slot c r)
  | c =>
    if (s.bench.memory slot).omits s.bench.now then (.ok (), s)
    else s.dispatch c.name c.kind ⟨request, slot, r⟩

/-- Evaluates checks into the slots from the given one on, up to the first that cannot be. -/
def evaluateAll (request slot : Nat) (r : Request) :
    List Check → EngineState → Except CheckError Unit × EngineState
  | [], s => (.ok (), s)
  | c :: rest, s =>
    match s.evaluate request slot c r with
    | (.ok (), s) => evaluateAll request (slot + 1) r rest s
    | (.error e, s) => (.error e, s)

/-! ### Waiting -/

/-- Lets the waiter with the given number at the score of a request go on. -/
def advanceWaiter (s : EngineState) (request waiter : Nat) : EngineState :=
  { s with bench := s.bench.setBoard request (Board.advanceWaiter s.clock (s.bench.board request) waiter) }

/-- How the wait of a waiter ended, if it has. -/
def waited? (s : EngineState) (request waiter : Nat) : Option WaitResult :=
  (s.bench.board request).waiters[waiter]?.bind Waiter.result?

/-- Lets time pass from timer to timer until a waiter is done or the instant `due` has come.  When a timer
and the end of the wait fall together, the wait ends. -/
def passTime (net : Network) (request waiter due : Nat) (s : EngineState) : EngineState :=
  let worked := (s.settle net).advanceWaiter request waiter
  if (worked.waited? request waiter).isSome then worked
  else
    let next := worked.nextTimer?.getD due
    if s.clock < next ∧ next < due then passTime net request waiter due { worked with clock := next }
    else { worked with clock := max s.clock due }.advanceWaiter request waiter
termination_by due - s.clock
decreasing_by
  show due - next < due - s.clock
  omega

/-- Waits until no guard of the score of a request is out, or the time allowed is up. -/
def wait (net : Network) (request : Nat) (limit : Span) (s : EngineState) : WaitResult × EngineState :=
  let board := s.bench.board request
  let waiter := board.waiters.length
  let due := s.clock + limit.millis
  let s := { s with bench := s.bench.setBoard request (board.attempt (.enter limit due)) }
  let s := s.advanceWaiter request waiter
  let s := if (s.waited? request waiter).isSome then s else s.passTime net request waiter due
  ((s.waited? request waiter).getD .quiet, s)

/-! ### Requests -/

/-- Adds a fresh score and tells its number. -/
def openBoard (s : EngineState) (slots : Nat) : Nat × EngineState :=
  (s.bench.boards.length, { s with bench := { s.bench with boards := s.bench.boards ++ [.blank slots] } })

/-- Makes the comparison of file stamps that was claimed for a slot at an instant. -/
def syncFile (files : Files) (s : EngineState) (slot now : Nat) : EngineState :=
  match s.bench.checks[slot]?, s.bench.memory slot with
  | some (.keyFile c), .keys file =>
    let e := files.at? c.path
    { s with bench := s.bench.setMemory slot (.keys (file.sync now e e e)) }
  | _, _ => s

/-- Makes all comparisons of file stamps that have been claimed. -/
def syncFiles (s : EngineState) (files : Files) : EngineState :=
  { s.claims.foldl (fun s (slot, now) => s.syncFile files slot now) s with claims := [] }

/-! ### The end -/

/-- Whether everyone who called for the shutdown of a kind's pool has seen its end. -/
def isDrained (s : EngineState) (kind : CheckKind) : Bool := (s.crews.lookup kind).all Crew.isDrained

/-- Calls for the shutdown of a kind's pool, unless one is under way. -/
def closePool (s : EngineState) (kind : CheckKind) : EngineState :=
  match s.crews.lookup kind with
  | some crew => if crew.isDrained then s.setCrew kind crew.close else s
  | none => s

/-- Closes the pools of the given kinds, each when the one before is drained, as far as that goes without
time passing.  Tells the kinds that are left; the pool of the first of them is being drained. -/
def closePools (net : Network) : List CheckKind → EngineState → List CheckKind × EngineState
  | [], s => ([], s)
  | kind :: rest, s =>
    let s := (s.closePool kind).settle net
    if s.isDrained kind then closePools net rest s else (kind :: rest, s)

/-- Goes on closing pools while time passes from timer to timer, at most `fuel` times. -/
def drain (net : Network) : Nat → List CheckKind → EngineState → Bool × EngineState
  | 0, left, s => (left.isEmpty, s)
  | fuel + 1, left, s =>
    match closePools net left s with
    | ([], s) => (true, s)
    | (left, s) =>
      match s.nextTimer? with
      | some next => drain net fuel left { s with clock := next }
      | none => (false, s)

/-- A number of timers that everything at hand cannot exceed: each ends a call or makes a worker retire. -/
def timersLeft (s : EngineState) : Nat :=
  s.crews.foldl (fun n (_, c) => n + c.pool.queue.length + 2 * c.pool.staff.length) 0

/-- The kinds of checks that have pools. -/
def poolKinds (s : EngineState) : List CheckKind := s.crews.map (·.1)

/-- Closes all pools and lets them work off what they accepted; the flag says whether all of it could be. -/
def shutDown (net : Network) (s : EngineState) : Bool × EngineState :=
  s.drain net (s.timersLeft + 1) s.poolKinds

end EngineState

namespace Engine

/-- How many slots a score has. -/
def slots (e : Engine) : Nat := Stage.slotCount (e.stages.map (·.stage))

/-- The total after a stage, or the fault that the wait for it ended in. -/
def stageTotal (b : Bench) (request : Nat) (stage : Text) : WaitResult → Except Fault Float
  | .quiet => .ok (b.board request).score.total
  | .timeout writers limit =>
    .error ⟨.timeout, "stage " ++ String.ofList stage ++ ": " ++ WaitResult.timeoutText writers limit⟩

/-- Evaluates a stage for a request and waits for it: the total after it. -/
def runStage (e : Engine) (net : Network) (request : Nat) (r : Request) (stage : PlacedStage Check Float) :
    ExceptT Fault (StateM EngineState) Float := fun s =>
  match EngineState.evaluateAll request stage.firstSlot r stage.stage.checks s with
  | (.error err, s) => (.error err.fault, s)
  | (.ok (), s) =>
    let (result, s) := s.wait net request ⟨e.policy.stageTimeout⟩
    (stageTotal s.bench request stage.stage.name result, s)

/-- Decides a request. -/
def decide (e : Engine) (net : Network) (r : Request) (s : EngineState) :
    Except Fault (Decision Float) × EngineState :=
  let (request, s) := s.openBoard e.slots
  Decision.run e.policy.thresholds e.policy.shortCircuit (e.runStage net request r) 0 0 e.stages s

/-! ### Building -/

/-- What has been built of an engine. -/
structure Draft where
  stages : List (Stage Check) := []
  memories : List Memory := []
  kinds : List CheckKind := []

/-- The name of a stage: the configured one, or one by its number. -/
def stageName (number : Nat) (s : StageSettings) : Text :=
  s.name.getD ("stage".toList ++ Text.decimal number)

/-- Builds the checks of a stage. -/
def addChecks (backoff : BackoffSettings) (now : Nat) (files : Files) :
    List CheckSettings → Stage Check → Draft → Except Fault Draft
  | [], stage, d => .ok { d with stages := d.stages ++ [stage] }
  | c :: rest, stage, d =>
    match Check.build c backoff now files with
    | .error e => .error e.fault
    | .ok (check, memory) =>
      match stage.add Check.name check with
      | .error e => .error e.fault
      | .ok stage =>
        addChecks backoff now files rest stage { d with
          memories := d.memories ++ [memory]
          kinds := if c.kind.isBackground ∧ c.kind ∉ d.kinds then d.kinds ++ [c.kind] else d.kinds }

/-- Builds stages, the first of them having the given number. -/
def addStages (backoff : BackoffSettings) (now : Nat) (files : Files) (number : Nat) :
    List StageSettings → Draft → Except Fault Draft
  | [], d => .ok d
  | s :: rest, d =>
    match addChecks backoff now files s.checks ⟨stageName number s, []⟩ d with
    | .error e => .error e
    | .ok d => addStages backoff now files (number + 1) rest d

/-- The engine of a configuration, and its state at the instant `now`; the first check that cannot be built
fails it. -/
def build (c : Config) (now : Nat) (files : Files) : Except Fault (Engine × EngineState) :=
  match addStages c.backoff now files 1 c.stages {} with
  | .error e => .error e
  | .ok d =>
    let pool (kind : CheckKind) : Crew Probe :=
      { pool := .ofSettings kind.name (c.poolFor kind.name.toList) true }
    .ok (
      { stages := Stage.layout Check.bounds d.stages, policy := c.policy, responses := c.responses },
      { bench := { checks := d.stages.flatMap (·.checks), memories := d.memories, now := now }
        crews := d.kinds.map fun kind => (kind, pool kind)
        clock := now })

end Engine
end MailPolicy
