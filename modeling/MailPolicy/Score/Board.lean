/-
A score that several checks write to while a request waits for them.

A check that works in the background holds a guard.  The counter says how many guards are out, and a request
waits until it reads zero.  Every action below is one critical section or one operation on the signal, so
that actions of different parties interleave freely:

* releasing a guard lowers the counter, and the one that brings it to zero owes a signal, which it gives in a
  second step;
* a waiter registers for the signal first, then reads the counter, and parks only if that is not zero; a
  signal reaches whoever has registered by then;
* a parked waiter that was signalled starts over, one whose time is up reads the counter once more and
  reports it.

`Board.step` performs an action if it is possible, and `Board.Reachable` holds of what can come about.
`Board.settle` is the run that the service performs: every waiter goes on until it has to park.
-/
import MailPolicy.Score
import MailPolicy.Span

namespace MailPolicy

/-- How a wait ended. -/
inductive WaitResult where
  /-- No guard was out. -/
  | quiet
  /-- Time was up; the guards still out and the time that was allowed. -/
  | timeout (writers : Nat) (limit : Span)
deriving DecidableEq, Repr

/-- The text of an expired wait. -/
def WaitResult.timeoutText (writers : Nat) (limit : Span) : String :=
  String.ofList (Text.decimal writers ++ " check(s) still running after ".toList ++ limit.render)

/-- Where a waiter stands. -/
inductive Waiter where
  /-- Registered for the signal and about to read the counter. -/
  | registered (limit : Span) (due : Nat) (signalled : Bool)
  /-- Suspended until the signal or the instant `due`. -/
  | parked (limit : Span) (due : Nat) (signalled : Bool)
  /-- Out of time and about to read the counter for its report. -/
  | expired (limit : Span)
  /-- Finished. -/
  | done (result : WaitResult)
deriving DecidableEq, Repr

namespace Waiter

/-- What the signal does to a waiter. -/
def signal : Waiter → Waiter
  | registered limit due _ => registered limit due true
  | parked limit due _ => parked limit due true
  | w => w

/-- How the waiter ended, if it has. -/
def result? : Waiter → Option WaitResult
  | done r => some r
  | _ => none

end Waiter

/-- A shared score. -/
structure Board (α : Type) where
  score : Score α
  /-- How many guards the counter says are out. -/
  writers : Nat := 0
  /-- The guards that are out. -/
  guards : List Nat := []
  /-- Releases that brought the counter to zero and have not given the signal yet. -/
  owed : Nat := 0
  /-- Everyone who ever waited, in order of arrival. -/
  waiters : List Waiter := []
deriving DecidableEq, Repr

/-- What can happen to a shared score. -/
inductive BoardAction (α : Type) where
  /-- A guard is handed out. -/
  | lock (guard : Nat)
  /-- The holder of a guard writes a slot. -/
  | write (guard index : Nat) (points : α)
  /-- A slot is written without a guard. -/
  | update (index : Nat) (points : α)
  /-- Every slot becomes neutral. -/
  | reset
  /-- A guard is given back. -/
  | release (guard : Nat)
  /-- An owed signal is given. -/
  | signal
  /-- Someone starts to wait and registers. -/
  | enter (limit : Span) (due : Nat)
  /-- A registered waiter reads the counter. -/
  | read (waiter : Nat)
  /-- A signalled waiter wakes up and registers again. -/
  | wake (waiter : Nat)
  /-- A waiter without a signal finds at the instant `now` that its time is up. -/
  | expire (waiter now : Nat)
  /-- A waiter out of time reports. -/
  | report (waiter : Nat)
deriving Repr

namespace Board

variable {α : Type}

/-- A shared score of neutral slots. -/
def blank (slots : Nat) : Board α := { score := .blank slots }

/-- The board with a waiter changed. -/
def setWaiter (b : Board α) (waiter : Nat) (w : Waiter) : Board α :=
  { b with waiters := b.waiters.set waiter w }

/-- The state after an action, if the action is possible. -/
def step (b : Board α) : BoardAction α → Option (Board α)
  | .lock guard =>
    if guard ∈ b.guards then none
    else some { b with writers := b.writers + 1, guards := b.guards ++ [guard] }
  | .write guard index points =>
    if guard ∈ b.guards then some { b with score := b.score.update index points } else none
  | .update index points => some { b with score := b.score.update index points }
  | .reset => some { b with score := b.score.reset }
  | .release guard =>
    if guard ∈ b.guards then
      some { b with
        writers := b.writers - 1
        guards := b.guards.erase guard
        owed := if b.writers - 1 = 0 then b.owed + 1 else b.owed }
    else none
  | .signal =>
    if 0 < b.owed then some { b with owed := b.owed - 1, waiters := b.waiters.map Waiter.signal }
    else none
  | .enter limit due => some { b with waiters := b.waiters ++ [.registered limit due false] }
  | .read waiter =>
    match b.waiters[waiter]? with
    | some (.registered limit due signalled) =>
      some (b.setWaiter waiter (if b.writers = 0 then .done .quiet else .parked limit due signalled))
    | _ => none
  | .wake waiter =>
    match b.waiters[waiter]? with
    | some (.parked limit due true) => some (b.setWaiter waiter (.registered limit due false))
    | _ => none
  | .expire waiter now =>
    match b.waiters[waiter]? with
    | some (.parked limit due false) => if due ≤ now then some (b.setWaiter waiter (.expired limit)) else none
    | _ => none
  | .report waiter =>
    match b.waiters[waiter]? with
    | some (.expired limit) => some (b.setWaiter waiter (.done (.timeout b.writers limit)))
    | _ => none

/-- What can come about from a fresh shared score. -/
inductive Reachable (slots : Nat) : Board α → Prop where
  | blank : Reachable slots (blank slots)
  | step {b b' : Board α} (a : BoardAction α) : Reachable slots b → b.step a = some b' → Reachable slots b'

/-- Performs an action if it is possible. -/
def attempt (b : Board α) (a : BoardAction α) : Board α := (b.step a).getD b

theorem Reachable.attempt {slots : Nat} {b : Board α} (h : Reachable slots b) (a : BoardAction α) :
    Reachable slots (b.attempt a) := by
  unfold Board.attempt
  cases hs : b.step a with
  | none => exact h
  | some b' => exact .step a h hs

/-- Performs the actions one after the other, each if it is possible. -/
def attemptAll (b : Board α) (as : List (BoardAction α)) : Board α := as.foldl attempt b

theorem Reachable.attemptAll {slots : Nat} {b : Board α} (h : Reachable slots b)
    (as : List (BoardAction α)) : Reachable slots (b.attemptAll as) := by
  induction as generalizing b with
  | nil => exact h
  | cons a rest ih => exact ih (h.attempt a)

/-- Gives back a guard and gives the signal at once if one is owed. -/
def releaseNow (b : Board α) (guard : Nat) : Board α := b.attemptAll [.release guard, .signal]

/-- Lets a waiter go on at the instant `now` until it has to park. -/
def advanceWaiter (now : Nat) (b : Board α) (waiter : Nat) : Board α :=
  b.attemptAll [.wake waiter, .read waiter, .expire waiter now, .report waiter]

/-- Lets every waiter go on at the instant `now`. -/
def settle (b : Board α) (now : Nat) : Board α :=
  (List.range b.waiters.length).foldl (advanceWaiter now) b

/-- Lets every waiter go on at the instant `now`, and again at the instant `later`. -/
def passTime (b : Board α) (now later : Nat) : Board α := (b.settle now).settle later

/-- Starts a wait at the instant `now`, which goes on beside everything else. -/
def startWait (b : Board α) (now : Nat) (limit : Span) : Board α :=
  (b.attempt (.enter limit (now + limit.millis))).settle now

/-- Waits from the instant `now` on while nothing else happens: how the wait ended, and when. -/
def wait (b : Board α) (now : Nat) (limit : Span) : Board α × WaitResult × Nat :=
  let me := b.waiters.length
  let due := now + limit.millis
  let b := advanceWaiter now (b.attempt (.enter limit due)) me
  match b.waiters[me]? with
  | some (.done r) => (b, r, now)
  | _ =>
    let b := b.passTime now due
    (b, (b.waiters[me]?.bind Waiter.result?).getD .quiet, due)

theorem Reachable.settle {slots : Nat} {b : Board α} (h : Reachable slots b) (now : Nat) :
    Reachable slots (b.settle now) := by
  unfold Board.settle
  generalize List.range b.waiters.length = ws
  induction ws generalizing b with
  | nil => exact h
  | cons w rest ih => exact ih (h.attemptAll _)

end Board
end MailPolicy
