/-
Back-off from a resource that keeps failing.

Each resource has a tracker.  A failure opens a window or falls into the one that is open; the failure that
fills a window closes it and starts a back-off, during which the resource is left alone.  The length of a
back-off is the base length times a power that doubles with every further one, up to a ceiling, and that
halves for every ceiling's worth of time without trouble.

* `Tracker.omits` says whether the resource is left alone at an instant;
* `Tracker.record?` records a failure and says whether it started a back-off; it has no result when the end
  of the back-off lies beyond the last instant of the clock.

Instants and lengths are in milliseconds, the settings in whole seconds.
-/
namespace MailPolicy

/-- How a resource is left alone after failures. -/
structure BackoffSettings where
  /-- Failures within so many seconds count together. -/
  timeFrame : Nat := 60
  /-- So many of them start a back-off. -/
  maxErrors : Nat := 5
  /-- Seconds of the first back-off. -/
  base : Nat := 30
  /-- Seconds of the longest back-off. -/
  ceiling : Nat := 600
deriving DecidableEq, Repr, Inhabited

/-- The failures of one resource. -/
structure Tracker where
  /-- Milliseconds that a window stays open. -/
  timeFrame : Nat
  /-- Failures that fill a window. -/
  maxErrors : Nat
  /-- Milliseconds of the first back-off. -/
  base : Nat
  /-- Milliseconds of the longest back-off. -/
  ceiling : Nat
  /-- The power that stands for the longest back-off. -/
  maxPower : Nat
  /-- When the open window was opened. -/
  windowStart : Option Nat := none
  /-- Failures in the open window. -/
  errors : Nat := 0
  /-- The multiple of the base length that the last back-off had; zero before the first. -/
  power : Nat := 0
  /-- When the last back-off ends. -/
  backOffUntil : Option Nat := none
  /-- Quiet time before this instant has been counted. -/
  countedTo : Option Nat := none
  /-- Whether the end of a back-off once lay beyond the last instant of the clock. -/
  overflowed : Bool := false
deriving DecidableEq, Repr

namespace Tracker

/-- The greatest power there is. -/
def powerLimit : Nat := 0xFFFFFFFF

/-- How many halvings make any power zero. -/
def powerWidth : Nat := 32

/-- The first instant that the clock cannot show. -/
def clockEnd : Nat := 0x8000000000000000 * 1000

/-- A tracker without failures.  A base or a count of zero is taken as one, and a ceiling below the base as
the base. -/
def ofSettings (s : BackoffSettings) : Tracker :=
  let base := max s.base 1
  let ceiling := max s.ceiling base
  { timeFrame := s.timeFrame * 1000
    maxErrors := max s.maxErrors 1
    base := base * 1000
    ceiling := ceiling * 1000
    maxPower := max (min (ceiling / base) powerLimit) 1 }

/-- Whether the resource is left alone at the instant `now`. -/
def omits (t : Tracker) (now : Nat) : Bool := t.backOffUntil.any (now < ·)

/-- Whether the open window still counts at the instant `now`. -/
def inWindow (t : Tracker) (now : Nat) : Bool := t.windowStart.any (now - · ≤ t.timeFrame)

/-- The power halved once for every full ceiling of time since the instant it was counted to. -/
def decay (t : Tracker) (now : Nat) : Tracker :=
  match t.countedTo with
  | none => t
  | some start =>
    let halvings := (now - start) / max t.ceiling 1
    if halvings < powerWidth then
      { t with power := t.power >>> halvings, countedTo := some (start + t.ceiling * halvings) }
    else { t with power := 0, countedTo := none }

/-- The tracker with one more failure in its window, a fresh one if none is open. -/
def count (t : Tracker) (now : Nat) : Tracker :=
  if t.inWindow now then { t with errors := t.errors + 1 }
  else { t.decay now with windowStart := some now, errors := 1 }

/-- The power of the back-off that follows one of power `p`. -/
def nextPower (t : Tracker) (p : Nat) : Nat := if p = 0 then 1 else min (p * 2) t.maxPower

/-- The length of a back-off of power `p`. -/
def length (t : Tracker) (p : Nat) : Nat := if t.maxPower ≤ p then t.ceiling else t.base * p

/-- The tracker with its window closed and a back-off started at the instant `now`. -/
def backOff? (t : Tracker) (now : Nat) : Option Tracker :=
  let power := t.nextPower t.power
  let stop := now + t.length power
  if stop < clockEnd then
    some { t with
      windowStart := none, errors := 0, power := power, backOffUntil := some stop, countedTo := some stop }
  else none

/-- Records a failure at the instant `now`; the flag says whether it started a back-off. -/
def record? (t : Tracker) (now : Nat) : Option (Tracker × Bool) :=
  let counted := t.count now
  if counted.errors < counted.maxErrors then some (counted, false)
  else (counted.backOff? now).map (·, true)

/-- Records a failure at the instant `now`, and keeps in mind if that could not be done. -/
def record (t : Tracker) (now : Nat) : Tracker × Bool :=
  (t.record? now).getD ({ t with overflowed := true }, false)

/-- The fewest seconds after `now`, up to `most`, after which the resource is no longer left alone. -/
def secondsLeft (t : Tracker) (now most : Nat) : Nat :=
  match t.backOffUntil with
  | none => 0
  | some stop => min ((stop - now + 999) / 1000) most

end Tracker
end MailPolicy
