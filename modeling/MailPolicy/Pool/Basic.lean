/-
Bounded pools of workers.

A pool keeps the tasks that it accepted in a queue and has at most `maxWorkers` workers take them from the
front.  Workers are started only when a task comes and none is idle; an idle worker beyond the first
`maxIdle` retires after a while; a task is refused once the queue is full and no worker can be added.

The state below is that of the pool between two critical sections.  A worker that finds no task registers
for the wake-up signal, in line, and parks.  Waking one takes the first of the line or, if nobody waits,
leaves a permit for the next to register; waking all empties the line and leaves no permit.

* `Pool.submit` accepts or refuses a task;
* `Pool.length_lt_of_submit`: with all workers there, a task is accepted only while the queue is not full.
-/
import MailPolicy.Text.Basic

namespace MailPolicy

/-- The size of a pool. -/
structure PoolSettings where
  /-- The most workers there are at a time. -/
  maxWorkers : Nat := 16
  /-- So many idle workers stay for good. -/
  maxIdle : Nat := 4
  /-- The queue is full from this length on. -/
  maxTasks : Nat := 256
  /-- Milliseconds after which any other idle worker retires. -/
  idleTimeout : Nat := 30000
deriving DecidableEq, Repr, Inhabited

/-- Why a task was refused. -/
inductive PoolError where
  /-- The queue is full and no worker can be added. -/
  | saturated (pool : String) (queued workers : Nat)
  /-- The pool was closed. -/
  | shuttingDown (pool : String)
  /-- There is nothing that workers could run on. -/
  | noRuntime (pool : String)
deriving DecidableEq, Repr

namespace PoolError

/-- The word for the kind of refusal. -/
def name : PoolError → String
  | saturated .. => "Saturated"
  | shuttingDown _ => "ShuttingDown"
  | noRuntime _ => "Spawn"

/-- The text of a refusal. -/
def message : PoolError → String
  | saturated pool queued workers =>
    "pool " ++ pool ++ " saturated (" ++ String.ofList (Text.decimal queued) ++ " queued, " ++
      String.ofList (Text.decimal workers) ++ " workers)"
  | shuttingDown pool => "pool " ++ pool ++ " is shutting down"
  | noRuntime pool => "pool " ++ pool ++ " cannot spawn a worker outside a tokio runtime"

end PoolError

/-- The two ways of waking workers. -/
inductive Wakeup where
  /-- The first in line was woken. -/
  | one
  /-- Everyone in line was woken. -/
  | all
deriving DecidableEq, Repr

/-- Where a worker stands. -/
inductive Worker (T : Type) where
  /-- About to look at the queue. -/
  | looking
  /-- Inside the handler with a task. -/
  | running (task : T)
  /-- Idle and in line for a wake-up, until the instant `due` if there is one. -/
  | parked (due : Option Nat)
  /-- Woken up, but still counted as idle. -/
  | woken
  /-- Out of time, but still counted as idle; a wake-up may have come since. -/
  | expired (heard : Option Wakeup)
  /-- No longer idle, about to leave the line or to pass on a wake-up that came too late. -/
  | withdrawing (retires : Bool) (heard : Option Wakeup)
  /-- About to be struck off. -/
  | exiting
  /-- Struck off. -/
  | gone
deriving DecidableEq, Repr

/-- Where a caller of a shutdown stands. -/
inductive Closer where
  /-- Has closed the pool and is about to wake all workers. -/
  | closing
  /-- About to register for the news that the last worker is gone. -/
  | registering
  /-- Registered and about to read the number of workers. -/
  | registered (signalled : Bool)
  /-- Suspended. -/
  | parked (signalled : Bool)
  /-- Has seen that no worker is left. -/
  | done
deriving DecidableEq, Repr

/-- What the news that the last worker is gone does to a caller. -/
def Closer.signal : Closer → Closer
  | registered _ => registered true
  | parked _ => parked true
  | c => c

/-- A pool of workers for tasks of type `T`. -/
structure Pool (T : Type) where
  name : String
  settings : PoolSettings
  /-- Whether there is anything that workers could run on. -/
  hosted : Bool := true
  /-- Tasks accepted and not yet taken, oldest first. -/
  queue : List T := []
  /-- The count of workers. -/
  workers : Nat := 0
  /-- The count of idle workers. -/
  idle : Nat := 0
  /-- Whether a shutdown has begun. -/
  closed : Bool := false
  /-- A wake-up that found nobody in line. -/
  permit : Bool := false
  /-- Workers in line for a wake-up, the longest waiting first. -/
  line : List Nat := []
  /-- Every worker ever started, by number. -/
  staff : List (Worker T) := []
  /-- Wake-ups that accepted tasks still have to send. -/
  owedWakeups : Nat := 0
  /-- News of the last worker's end still to be given. -/
  owedNews : Nat := 0
  /-- Everyone who ever called for a shutdown, by number. -/
  closers : List Closer := []
  /-- Every task ever accepted, in order. -/
  accepted : List T := []
  /-- Every task ever handed to the handler, in order. -/
  handed : List T := []
deriving Repr

namespace Pool

variable {T : Type}

/-- A pool without workers.  A limit of zero workers or tasks is taken as one. -/
def ofSettings (name : String) (s : PoolSettings) (hosted : Bool) : Pool T where
  name := name
  settings := { s with maxWorkers := max s.maxWorkers 1, maxTasks := max s.maxTasks 1 }
  hosted := hosted

/-- Whether a task that comes now is refused for want of room. -/
def isSaturated (p : Pool T) : Bool :=
  p.settings.maxTasks ≤ p.queue.length && p.settings.maxWorkers ≤ p.workers

/-- Whether a task that comes now adds a worker. -/
def wantsWorker (p : Pool T) : Bool := p.idle == 0 && p.workers < p.settings.maxWorkers

/-- The figures of a pool in a line of text. -/
def figures (p : Pool T) : String :=
  "workers=" ++ String.ofList (Text.decimal p.workers) ++ " idle=" ++ String.ofList (Text.decimal p.idle) ++
    " queued=" ++ String.ofList (Text.decimal p.queue.length)

/-- The pool with a task at the end of its queue. -/
def enqueue (p : Pool T) (task : T) : Pool T :=
  { p with queue := p.queue ++ [task], accepted := p.accepted ++ [task] }

/-- Accepts a task, with a new worker or with a wake-up still to be sent, or says why not. -/
def submit (p : Pool T) (task : T) : Except PoolError (Pool T) :=
  if p.closed then .error (.shuttingDown p.name)
  else if p.isSaturated then .error (.saturated p.name p.queue.length p.workers)
  else if p.wantsWorker then
    if p.hosted then
      .ok { p.enqueue task with workers := p.workers + 1, staff := p.staff ++ [.looking] }
    else .error (.noRuntime p.name)
  else .ok { p.enqueue task with owedWakeups := p.owedWakeups + 1 }

/-- With all workers there, a task is accepted only while the queue is not full. -/
theorem length_lt_of_submit {p q : Pool T} {task : T} (h : p.submit task = .ok q)
    (hmax : p.settings.maxWorkers ≤ p.workers) :
    p.queue.length < p.settings.maxTasks := by
  simp only [submit] at h
  split at h
  · exact absurd h (by simp)
  · split at h
    · exact absurd h (by simp)
    · rename_i hs
      simp only [isSaturated, Bool.and_eq_true, decide_eq_true_eq, not_and] at hs
      exact Nat.lt_of_not_le fun hle => hs hle hmax

end Pool
end MailPolicy
