/-
Running a pool on a clock.

A handler says how each call goes: it ends at once, sleeps until an instant, waits for a permit at a gate, or
never ends.  Workers take turns: whoever can go on joins the end of a queue, those whose time is up by the
order of their instants, and each goes on until it blocks.  All of it is made of the actions of `Pool.step`.

* `Crew.submit` hands in a task, `Crew.release` permits, `Crew.close` the call for a shutdown;
* `Crew.settle` lets everyone go on at an instant until all are blocked;
* `Crew.nextTimer?` is the next instant at which someone could go on by himself.
-/
import MailPolicy.Pool.Step

namespace MailPolicy

/-- How a call of the handler goes on. -/
inductive Course where
  /-- It ends without waiting. -/
  | ready
  /-- It ends at the given instant. -/
  | sleeps (due : Nat)
  /-- It waits for a permit. -/
  | gated
  /-- It never ends. -/
  | hangs
deriving DecidableEq, Repr

/-- How a call of the handler ended. -/
inductive Ending where
  | returned
  | panicked
deriving DecidableEq, Repr

/-- A handler for tasks of type `T` that works on things of type `σ`. -/
structure Handler (T σ : Type) where
  /-- What the call does at once, at a given instant, and how it goes on. -/
  start : σ → Nat → T → Course × σ
  /-- What the call does at its end. -/
  finish : σ → T → Ending × σ

/-- A pool with the calls of its handler. -/
structure Crew (T : Type) where
  pool : Pool T
  /-- How the call of each busy worker goes on. -/
  courses : List (Nat × Course) := []
  /-- Permits that nobody has taken. -/
  permits : Nat := 0
  /-- Workers that wait for a permit, first come first. -/
  gate : List Nat := []
  /-- Workers that can go on, in the order of their turns. -/
  turns : List Nat := []
  /-- Blocked workers that go on by themselves at an instant, in the order in which they blocked. -/
  timers : List (Nat × Nat) := []
deriving Repr

namespace Crew

variable {T σ : Type}

/-! ### Turns -/

/-- The course of a worker's call. -/
def course (c : Crew T) (worker : Nat) : Course := (c.courses.lookup worker).getD .ready

/-- Sets the course of a worker's call. -/
def setCourse (c : Crew T) (worker : Nat) (course : Course) : Crew T :=
  { c with courses := (worker, course) :: c.courses.filter (·.1 != worker) }

/-- Whether a worker can go on whatever the time is. -/
def isRunnable (c : Crew T) (worker : Nat) : Bool :=
  match c.pool.staff[worker]? with
  | some (.running _) => c.course worker == .ready
  | some (.parked _) => false
  | some .gone => false
  | some _ => true
  | none => false

/-- Appends workers to the queue for a turn, each once. -/
def queueUp (c : Crew T) (workers : List Nat) : Crew T :=
  { c with turns := workers.foldl (fun q w => if w ∈ q then q else q ++ [w]) c.turns }

/-- Queues up everyone who can go on, those in the list `first` before the others. -/
def queueRunnable (c : Crew T) (first : List Nat) : Crew T :=
  c.queueUp ((first ++ List.range c.pool.staff.length).filter c.isRunnable)

/-- The instant at which a worker goes on by itself, if there is one. -/
def timer? (c : Crew T) (worker : Nat) : Option Nat :=
  match c.pool.staff[worker]? with
  | some (.parked due) => due
  | some (.running _) =>
    match c.course worker with
    | .sleeps due => some due
    | _ => none
  | _ => none

/-- Forgets the instant of a worker. -/
def cancelTimer (c : Crew T) (worker : Nat) : Crew T :=
  { c with timers := c.timers.filter (·.1 != worker) }

/-- Notes the instant at which a worker that has blocked goes on by itself. -/
def startTimer (c : Crew T) (worker : Nat) : Crew T :=
  match c.timer? worker with
  | some due => { c.cancelTimer worker with timers := (c.cancelTimer worker).timers ++ [(worker, due)] }
  | none => c.cancelTimer worker

/-- Queues up everyone whose time is up at the instant `now`. -/
def fire (c : Crew T) (now : Nat) : Crew T :=
  let due := (c.timers.filter (·.2 ≤ now)).mergeSort fun a b => a.2 ≤ b.2
  { c.queueUp (due.map (·.1)) with timers := c.timers.filter (now < ·.2) }

/-- The first instant after `now` at which someone goes on by himself. -/
def nextTimer? (c : Crew T) (now : Nat) : Option Nat := ((c.timers.map (·.2)).filter (now < ·)).min?

/-! ### The gate -/

/-- A call comes to the gate. -/
def arrive (c : Crew T) (worker : Nat) : Crew T :=
  if 0 < c.permits ∧ c.gate = [] then { c.setCourse worker .ready with permits := c.permits - 1 }
  else { c.setCourse worker .gated with gate := c.gate ++ [worker] }

/-- Hands permits to those who wait for one. -/
def letIn (c : Crew T) : Crew T :=
  let lucky := c.gate.take c.permits
  let c := lucky.foldl (fun c worker => c.setCourse worker .ready) c
  { c with permits := c.permits - lucky.length, gate := c.gate.drop lucky.length }.queueRunnable lucky

/-- Adds permits. -/
def release (c : Crew T) (count : Nat) : Crew T := { c with permits := c.permits + count }.letIn

/-! ### Workers -/

/-- The crew after an action of its pool. -/
def act (c : Crew T) (a : PoolAction T) : Crew T := { c with pool := c.pool.attempt a }

/-- The crew after a worker looked at the queue; a task that it found is started. -/
def look (h : Handler T σ) (now worker : Nat) (c : Crew T) (env : σ) : Crew T × σ :=
  let c := c.act (.look worker now)
  match c.pool.staff[worker]? with
  | some (.running task) =>
    let (course, env) := h.start env now task
    (if course = .gated then c.arrive worker else c.setCourse worker course, env)
  | _ => (c, env)

/-- The crew after the call of a worker ended. -/
def finish (h : Handler T σ) (worker : Nat) (task : T) (c : Crew T) (env : σ) : Crew T × σ :=
  let (ending, env) := h.finish env task
  (c.act (match ending with | .returned => .finish worker | .panicked => .panic worker), env)

/-- One action of a worker, unless it is blocked at the instant `now`. -/
def advance? (h : Handler T σ) (now worker : Nat) (c : Crew T) (env : σ) : Option (Crew T × σ) :=
  match c.pool.staff[worker]? with
  | some .looking => some (c.look h now worker env)
  | some (.running task) =>
    match c.course worker with
    | .ready => some (c.finish h worker task env)
    | .sleeps due => if due ≤ now then some (c.finish h worker task env) else none
    | .gated => none
    | .hangs => none
  | some .woken => some (c.act (.wake worker), env)
  | some (.parked (some due)) => if due ≤ now then some (c.act (.expire worker now), env) else none
  | some (.parked none) => none
  | some (.expired _) => some (c.act (.resign worker), env)
  | some (.withdrawing _ _) => some (c.act (.withdraw worker), env)
  | some .exiting => some ((c.act (.strike worker)).act .announce, env)
  | some .gone => none
  | none => none

/-- Lets a worker perform up to `fuel` actions, until it blocks. -/
def runWorker (h : Handler T σ) (now worker : Nat) : Nat → Crew T → σ → Crew T × σ
  | 0, c, env => (c, env)
  | fuel + 1, c, env =>
    match c.advance? h now worker env with
    | some (c, env) => runWorker h now worker fuel c env
    | none => (c, env)

/-- Actions that suffice for one worker to empty the queue and to leave. -/
def enough (c : Crew T) : Nat := 3 * c.pool.queue.length + 8

/-- Lets workers have up to `fuel` turns, until nobody is queued up. -/
def runTurns (h : Handler T σ) (now : Nat) : Nat → Crew T → σ → Crew T × σ
  | 0, c, env => (c, env)
  | fuel + 1, c, env =>
    match c.turns with
    | [] => (c, env)
    | worker :: rest =>
      let (c, env) := { c with turns := rest }.runWorker h now worker c.enough env
      runTurns h now fuel ((c.startTimer worker).queueRunnable []) env

/-- Lets the workers take turns at the instant `now` until all are blocked.  A worker gets another turn only
when a wake-up is passed on to it, by one that leaves. -/
def runWorkers (h : Handler T σ) (now : Nat) (c : Crew T) (env : σ) : Crew T × σ :=
  let c := (c.queueRunnable []).fire now
  c.runTurns h now (2 * c.pool.staff.length + 2) env

/-! ### Tasks and shutdowns -/

/-- Sends the wake-ups that accepted tasks owe. -/
def sendWakeups (c : Crew T) : Crew T :=
  { c with pool := c.pool.attemptAll (List.replicate c.pool.owedWakeups .notify) }

/-- Submits a task and sends the wake-up it may owe. -/
def submit (c : Crew T) (task : T) : Except PoolError (Crew T) :=
  (c.pool.submit task).map fun p => ({ c with pool := p }.sendWakeups).queueRunnable []

/-- Calls for a shutdown. -/
def close (c : Crew T) : Crew T := c.act .close

/-- Lets a caller of a shutdown go on until it blocks. -/
def runCloser (c : Crew T) (closer : Nat) : Crew T :=
  let line := c.pool.line
  let actions := [.wakeAll closer, .resume closer, .register closer, .read closer]
  { c with pool := c.pool.attemptAll actions }.queueRunnable line

/-- Lets everyone who called for a shutdown go on until they block. -/
def runClosers (c : Crew T) : Crew T := (List.range c.pool.closers.length).foldl runCloser c

/-- Lets the whole crew go on at the instant `now` until it blocks. -/
def settle (h : Handler T σ) (now : Nat) (c : Crew T) (env : σ) : Crew T × σ :=
  let (c, env) := c.runClosers.runWorkers h now env
  (c.runClosers, env)

/-- Whether everyone who called for a shutdown has seen that no worker is left. -/
def isDrained (c : Crew T) : Bool := c.pool.closers.all (· == .done)

end Crew
end MailPolicy
