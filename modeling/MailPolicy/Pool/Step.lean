/-
The actions of a pool, one critical section or one operation on a signal at a time.

`Pool.step` performs an action if it is possible in a state, and `Pool.Reachable` holds of every state that
some interleaving of submits, workers, timeouts and shutdowns brings about.

* `Pool.reachable_submit`: what `Pool.submit` gives is such a state;
* `Pool.Reachable.attemptAll`: so is what any list of actions gives.
-/
import MailPolicy.Pool.Basic

namespace MailPolicy

/-- What can happen to a pool of tasks of type `T`. -/
inductive PoolAction (T : Type) where
  /-- A task is submitted. -/
  | submit (task : T)
  /-- An accepted task sends the wake-up that it owes. -/
  | notify
  /-- A worker looks at the queue at the instant `now`. -/
  | look (worker now : Nat)
  /-- The handler is done with the task of a worker. -/
  | finish (worker : Nat)
  /-- The handler panics over the task of a worker. -/
  | panic (worker : Nat)
  /-- A worker that was woken is idle no more. -/
  | wake (worker : Nat)
  /-- A parked worker finds at the instant `now` that its time is up. -/
  | expire (worker now : Nat)
  /-- A worker out of time is idle no more, and retires if the queue is empty. -/
  | resign (worker : Nat)
  /-- A worker out of time leaves the line, or passes on the wake-up that came too late. -/
  | withdraw (worker : Nat)
  /-- A worker is struck off. -/
  | strike (worker : Nat)
  /-- The news that the last worker is gone is given. -/
  | announce
  /-- Someone calls for a shutdown and closes the pool. -/
  | close
  /-- A caller of a shutdown wakes all workers. -/
  | wakeAll (closer : Nat)
  /-- A caller of a shutdown registers for the news. -/
  | register (closer : Nat)
  /-- A registered caller reads the number of workers. -/
  | read (closer : Nat)
  /-- A caller that got the news goes on. -/
  | resume (closer : Nat)
deriving Repr

/-- What a wake-up does to a worker in line. -/
def Worker.hear {T : Type} (how : Wakeup) : Worker T → Worker T
  | .parked _ => .woken
  | .expired none => .expired (some how)
  | .withdrawing retires none => .withdrawing retires (some how)
  | w => w

namespace Pool

variable {T : Type}

/-- The pool with a worker changed. -/
def setWorker (p : Pool T) (worker : Nat) (w : Worker T) : Pool T :=
  { p with staff := p.staff.set worker w }

/-- The pool with a caller of a shutdown changed. -/
def setCloser (p : Pool T) (closer : Nat) (c : Closer) : Pool T :=
  { p with closers := p.closers.set closer c }

/-- Wakes the first in line, or leaves a permit. -/
def wakeOne (p : Pool T) : Pool T :=
  match p.line with
  | [] => { p with permit := true }
  | worker :: rest => { p with line := rest, staff := p.staff.modify worker (.hear .one) }

/-- Wakes everyone in line. -/
def wakeLine (p : Pool T) : Pool T :=
  { p with line := [], staff := p.line.foldl (fun staff worker => staff.modify worker (.hear .all)) p.staff }

/-- Whether the worker that goes idle next may time out. -/
def nextIsBounded (p : Pool T) : Bool := p.settings.maxIdle < p.idle + 1

/-- Makes a worker idle at the instant `now`: a permit wakes it at once, else it joins the line. -/
def park (p : Pool T) (worker now : Nat) : Pool T :=
  let due := if p.nextIsBounded then some (now + p.settings.idleTimeout) else none
  if p.permit then { p.setWorker worker .woken with idle := p.idle + 1, permit := false }
  else { p.setWorker worker (.parked due) with idle := p.idle + 1, line := p.line ++ [worker] }

/-- The state after an action, if the action is possible.  A submit that is refused leaves no trace. -/
def step (p : Pool T) : PoolAction T → Option (Pool T)
  | .submit task =>
    match p.submit task with
    | .ok q => some q
    | .error _ => none
  | .notify => if 0 < p.owedWakeups then some { p with owedWakeups := p.owedWakeups - 1 }.wakeOne else none
  | .look worker now =>
    match p.staff[worker]? with
    | some .looking =>
      match p.queue with
      | task :: rest =>
        some { p.setWorker worker (.running task) with queue := rest, handed := p.handed ++ [task] }
      | [] => some (if p.closed then p.setWorker worker .exiting else p.park worker now)
    | _ => none
  | .finish worker =>
    match p.staff[worker]? with
    | some (.running _) => some (p.setWorker worker .looking)
    | _ => none
  | .panic worker =>
    match p.staff[worker]? with
    | some (.running _) => some (p.setWorker worker .exiting)
    | _ => none
  | .wake worker =>
    match p.staff[worker]? with
    | some .woken => some { p.setWorker worker .looking with idle := p.idle - 1 }
    | _ => none
  | .expire worker now =>
    match p.staff[worker]? with
    | some (.parked (some due)) => if due ≤ now then some (p.setWorker worker (.expired none)) else none
    | _ => none
  | .resign worker =>
    match p.staff[worker]? with
    | some (.expired heard) =>
      some { p.setWorker worker (.withdrawing p.queue.isEmpty heard) with idle := p.idle - 1 }
    | _ => none
  | .withdraw worker =>
    match p.staff[worker]? with
    | some (.withdrawing retires heard) =>
      let q := p.setWorker worker (if retires then .exiting else .looking)
      match heard with
      | none => some { q with line := q.line.erase worker }
      | some .one => some q.wakeOne
      | some .all => some q
    | _ => none
  | .strike worker =>
    match p.staff[worker]? with
    | some .exiting =>
      some { p.setWorker worker .gone with
        workers := p.workers - 1
        owedNews := if p.workers - 1 = 0 then p.owedNews + 1 else p.owedNews }
    | _ => none
  | .announce =>
    if 0 < p.owedNews then
      some { p with owedNews := p.owedNews - 1, closers := p.closers.map Closer.signal }
    else none
  | .close => some { p with closed := true, closers := p.closers ++ [.closing] }
  | .wakeAll closer =>
    match p.closers[closer]? with
    | some .closing => some (p.wakeLine.setCloser closer .registering)
    | _ => none
  | .register closer =>
    match p.closers[closer]? with
    | some .registering => some (p.setCloser closer (.registered false))
    | _ => none
  | .read closer =>
    match p.closers[closer]? with
    | some (.registered signalled) =>
      some (p.setCloser closer (if p.workers = 0 then .done else .parked signalled))
    | _ => none
  | .resume closer =>
    match p.closers[closer]? with
    | some (.parked true) => some (p.setCloser closer .registering)
    | _ => none

/-- What can come about in a pool that is set up with the given settings. -/
inductive Reachable (name : String) (s : PoolSettings) (hosted : Bool) : Pool T → Prop where
  | start : Reachable name s hosted (ofSettings name s hosted)
  | step {p q : Pool T} (a : PoolAction T) :
      Reachable name s hosted p → p.step a = some q → Reachable name s hosted q

variable {name : String} {s : PoolSettings} {hosted : Bool}

theorem reachable_submit {p q : Pool T} {task : T} (h : Reachable name s hosted p)
    (hs : p.submit task = .ok q) : Reachable name s hosted q :=
  .step (.submit task) h (by simp [step, hs])

/-- Performs an action if it is possible. -/
def attempt (p : Pool T) (a : PoolAction T) : Pool T := (p.step a).getD p

/-- Performs the actions one after the other, each if it is possible. -/
def attemptAll (p : Pool T) (as : List (PoolAction T)) : Pool T := as.foldl attempt p

theorem Reachable.attempt {p : Pool T} (h : Reachable name s hosted p) (a : PoolAction T) :
    Reachable name s hosted (p.attempt a) := by
  unfold Pool.attempt
  cases hs : p.step a with
  | none => exact h
  | some q => exact .step a h hs

theorem Reachable.attemptAll {p : Pool T} (h : Reachable name s hosted p) (as : List (PoolAction T)) :
    Reachable name s hosted (p.attemptAll as) := by
  induction as generalizing p with
  | nil => exact h
  | cons a rest ih => exact ih (h.attempt a)

end Pool
end MailPolicy
