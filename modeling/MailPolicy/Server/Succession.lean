/-
Engines that succeed one another.

Engines are numbered in the order in which they are installed.  A request leases the engine that is installed
when it has been read.  When a new engine is installed the one before goes on a list.  A retirer takes off the
list the engines that nobody else refers to and shuts them down one by one; if others are left on the list it
waits until a lease is given back, and looks again.

Every action below changes one reference, counts those to one engine, takes or gives back the lock of the list
or does one operation on the signal, so that actions of different parties interleave freely:

* giving back a lease drops the reference, and gives the signal in a second step;
* a retirer registers for the signal before it looks at the list; a signal reaches whoever has registered by
  then, at work or parked;
* a retirer that looks at the list holds its lock, empties it, counts the references to one engine after the
  other while leases come and go, and puts back those engines that others refer to.

`Succession.step` performs an action if it is possible, `Succession.Reachable` holds of what can come about,
and `Succession.retirerRun` is what a retirer does up to the next thing that it has to wait for.
-/
import MailPolicy.Text.Basic

namespace MailPolicy

/-- Where a lease stands. -/
inductive Lease where
  /-- Its holder refers to the engine with the given number. -/
  | held (engine : Nat)
  /-- The reference is gone and the signal is still to be given. -/
  | dropped
  | over
deriving DecidableEq, Repr

/-- Where a retirer stands. -/
inductive Retirer where
  /-- About to register for the signal. -/
  | called
  /-- Registered and about to look at the list. -/
  | registered (signalled : Bool)
  /-- Holds the lock with all engines off the list: some not counted yet, those that nobody else refers to,
  and the others. -/
  | sorting (unread idle busy : List Nat) (signalled : Bool)
  /-- Has taken some engines off the list and left others there; about to shut down the first one taken. -/
  | holding (taken left : List Nat) (signalled : Bool)
  /-- Waiting for the end of the shutdown that it has begun. -/
  | closing (engine : Nat) (taken left : List Nat) (signalled : Bool)
  /-- Suspended until the signal, with the engines that it left on the list. -/
  | parked (left : List Nat) (signalled : Bool)
  /-- Found that it left no engine on the list. -/
  | done
deriving DecidableEq, Repr

namespace Retirer

/-- What the signal does to a retirer. -/
def signal : Retirer → Retirer
  | registered _ => registered true
  | sorting unread idle busy _ => sorting unread idle busy true
  | holding taken left _ => holding taken left true
  | closing engine taken left _ => closing engine taken left true
  | parked left _ => parked left true
  | r => r

/-- The engines that a retirer refers to. -/
def references : Retirer → List Nat
  | sorting unread idle busy _ => unread ++ idle ++ busy
  | holding taken _ _ => taken
  | closing engine taken _ _ => engine :: taken
  | _ => []

/-- Whether a retirer holds the lock of the list. -/
def locks : Retirer → Bool
  | sorting .. => true
  | _ => false

end Retirer

/-- The engines of a server, by number, and everyone who refers to them. -/
structure Succession where
  /-- The engine that serves new requests; those before it have been replaced. -/
  installed : Nat := 0
  /-- Replaced engines on the way to the list. -/
  displaced : List Nat := []
  /-- The list of replaced engines. -/
  retiring : List Nat := []
  /-- Every lease ever taken, by number. -/
  leases : List Lease := []
  /-- Everyone who was ever called to retire engines, by number. -/
  retirers : List Retirer := []
  /-- The engines whose shutdown was begun, in order. -/
  begun : List Nat := []
  /-- The engines whose shutdown has come to its end, in order. -/
  ended : List Nat := []
deriving DecidableEq, Repr

/-- What can happen to the engines. -/
inductive SuccessionAction where
  /-- A request leases the installed engine. -/
  | lease
  /-- The holder of a lease has its engine decide. -/
  | decide (lease : Nat)
  /-- The holder of a lease drops its reference. -/
  | drop (lease : Nat)
  /-- The signal for a dropped reference is given. -/
  | notify (lease : Nat)
  /-- A fresh engine is installed. -/
  | install
  /-- A replaced engine is put on the list. -/
  | push (engine : Nat)
  /-- Someone is called to retire engines. -/
  | call
  /-- A retirer registers for the signal. -/
  | register (retirer : Nat)
  /-- A retirer takes the lock of the list and all engines off the list. -/
  | look (retirer : Nat)
  /-- A retirer counts the references to the first engine that it has not counted yet. -/
  | count (retirer : Nat)
  /-- A retirer puts back the engines that others refer to and gives back the lock. -/
  | putBack (retirer : Nat)
  /-- A retirer begins the shutdown of an engine. -/
  | begin (retirer : Nat)
  /-- A shutdown comes to its end and the retirer drops its reference. -/
  | finish (retirer : Nat)
  /-- A retirer is through with the engines it took, and parks unless it left none on the list. -/
  | conclude (retirer : Nat)
  /-- A parked retirer that was signalled starts over. -/
  | wake (retirer : Nat)
deriving DecidableEq, Repr

namespace Succession

/-- How many references there are to an engine. -/
def references (s : Succession) (engine : Nat) : Nat :=
  (if s.installed = engine then 1 else 0) + s.displaced.count engine + s.retiring.count engine +
    s.leases.count (.held engine) + (s.retirers.flatMap Retirer.references).count engine

/-- Whether nobody else refers to an engine that somebody refers to. -/
def isIdle (s : Succession) (engine : Nat) : Bool := s.references engine = 1

/-- Whether the lock of the list is held. -/
def isLocked (s : Succession) : Bool := s.retirers.any Retirer.locks

/-- The succession with a lease changed. -/
def setLease (s : Succession) (lease : Nat) (l : Lease) : Succession :=
  { s with leases := s.leases.set lease l }

/-- The succession with a retirer changed. -/
def setRetirer (s : Succession) (retirer : Nat) (r : Retirer) : Succession :=
  { s with retirers := s.retirers.set retirer r }

/-- The state after an action, if the action is possible. -/
def step (s : Succession) : SuccessionAction → Option Succession
  | .lease => some { s with leases := s.leases ++ [.held s.installed] }
  | .decide lease =>
    match s.leases[lease]? with
    | some (.held _) => some s
    | _ => none
  | .drop lease =>
    match s.leases[lease]? with
    | some (.held _) => some (s.setLease lease .dropped)
    | _ => none
  | .notify lease =>
    match s.leases[lease]? with
    | some .dropped => some { s.setLease lease .over with retirers := s.retirers.map Retirer.signal }
    | _ => none
  | .install => some { s with installed := s.installed + 1, displaced := s.displaced ++ [s.installed] }
  | .push engine =>
    if engine ∈ s.displaced ∧ s.isLocked = false then
      some { s with displaced := s.displaced.erase engine, retiring := s.retiring ++ [engine] }
    else none
  | .call => some { s with retirers := s.retirers ++ [.called] }
  | .register retirer =>
    match s.retirers[retirer]? with
    | some .called => some (s.setRetirer retirer (.registered false))
    | _ => none
  | .look retirer =>
    match s.retirers[retirer]? with
    | some (.registered signalled) =>
      if s.isLocked then none
      else some { s.setRetirer retirer (.sorting s.retiring [] [] signalled) with retiring := [] }
    | _ => none
  | .count retirer =>
    match s.retirers[retirer]? with
    | some (.sorting (engine :: unread) idle busy signalled) =>
      some (s.setRetirer retirer
        (if s.isIdle engine then .sorting unread (idle ++ [engine]) busy signalled
        else .sorting unread idle (busy ++ [engine]) signalled))
    | _ => none
  | .putBack retirer =>
    match s.retirers[retirer]? with
    | some (.sorting [] idle busy signalled) =>
      some { s.setRetirer retirer (.holding idle busy signalled) with retiring := busy }
    | _ => none
  | .begin retirer =>
    match s.retirers[retirer]? with
    | some (.holding (engine :: rest) left signalled) =>
      some { s.setRetirer retirer (.closing engine rest left signalled) with begun := s.begun ++ [engine] }
    | _ => none
  | .finish retirer =>
    match s.retirers[retirer]? with
    | some (.closing engine rest left signalled) =>
      some { s.setRetirer retirer (.holding rest left signalled) with ended := s.ended ++ [engine] }
    | _ => none
  | .conclude retirer =>
    match s.retirers[retirer]? with
    | some (.holding [] left signalled) =>
      some (s.setRetirer retirer (if left.isEmpty then .done else .parked left signalled))
    | _ => none
  | .wake retirer =>
    match s.retirers[retirer]? with
    | some (.parked _ true) => some (s.setRetirer retirer .called)
    | _ => none

/-- What can come about from a single engine that nobody has leased yet. -/
inductive Reachable : Succession → Prop where
  | start : Reachable {}
  | step {s t : Succession} (a : SuccessionAction) : Reachable s → s.step a = some t → Reachable t

/-- Performs an action if it is possible. -/
def attempt (s : Succession) (a : SuccessionAction) : Succession := (s.step a).getD s

/-- Performs the actions one after the other, each if it is possible. -/
def attemptAll (s : Succession) (as : List SuccessionAction) : Succession := as.foldl attempt s

theorem Reachable.attempt {s : Succession} (h : Reachable s) (a : SuccessionAction) :
    Reachable (s.attempt a) := by
  unfold Succession.attempt
  cases hs : s.step a with
  | none => exact h
  | some t => exact .step a h hs

theorem Reachable.attemptAll {s : Succession} (h : Reachable s) (as : List SuccessionAction) :
    Reachable (s.attemptAll as) := by
  induction as generalizing s with
  | nil => exact h
  | cons a rest ih => exact ih (h.attempt a)

/-- What a retirer does one after the other, as far as each is possible, until it has begun a shutdown, is
parked or done, with so many engines on the list. -/
def retirerRun (listed retirer : Nat) : List SuccessionAction :=
  [.conclude retirer, .wake retirer, .register retirer, .look retirer] ++
    List.replicate listed (.count retirer) ++ [.putBack retirer, .conclude retirer, .begin retirer]

/-- Whether a retirer is done. -/
def isDone (s : Succession) (retirer : Nat) : Bool := s.retirers[retirer]? = some .done

end Succession
end MailPolicy
