/-
Checks in the background.

A probe asks the domain name system on behalf of one request and writes what it finds into one slot of the
score of that request.  It holds a guard of the score until it is over, whatever comes of it.

* `Network` is what can be asked;
* `Bench` is what probes work on: the scores of all requests and the memories of all checks;
* `Probe.handler` is the way a pool handles a probe.
-/
import MailPolicy.Check.Basic
import MailPolicy.Pool.Crew
import MailPolicy.Score.Board

namespace MailPolicy

/-- What a reputation list says of a name. -/
inductive Listing where
  /-- It is listed, with these answers. -/
  | addresses (answers : List Ipv4)
  /-- It is not listed. -/
  | unlisted
  /-- The list could not be asked. -/
  | failed
deriving DecidableEq, Repr

/-- When a reputation list answers. -/
inductive ListReply where
  /-- After some milliseconds. -/
  | after (delay : Nat) (listing : Listing)
  | never
deriving DecidableEq, Repr

/-- What an evaluation of a sender policy is about. -/
structure Subject where
  sender : Option Text
  helo : Option Text
  client : IpAddress
deriving DecidableEq, Repr

/-- What probes can ask. -/
structure Network where
  /-- What the reputation lists reply for a name. -/
  listed : Text → ListReply
  /-- The result for a sender, when so many evaluations have gone before. -/
  policy : Nat → Subject → SpfResult

/-- A check in the background of one request. -/
structure Probe where
  /-- The number of the request. -/
  request : Nat
  /-- The slot of the check. -/
  slot : Nat
  attributes : Request
deriving DecidableEq, Repr

/-- What probes work on. -/
structure Bench where
  /-- The checks, by slot. -/
  checks : List Check
  /-- What each check remembers, by slot. -/
  memories : List Memory
  /-- The scores, by number of the request. -/
  boards : List (Board Float) := []
  /-- The time by which failures are counted. -/
  now : Nat
  /-- Names that reputation lists were asked for. -/
  queries : List Text := []
  /-- Evaluations of sender policies. -/
  subjects : List Subject := []

namespace Bench

/-- The memory of the check in a slot. -/
def memory (b : Bench) (slot : Nat) : Memory := (b.memories[slot]?).getD .nothing

/-- Changes the memory of the check in a slot. -/
def setMemory (b : Bench) (slot : Nat) (m : Memory) : Bench := { b with memories := b.memories.set slot m }

/-- The score of a request. -/
def board (b : Bench) (request : Nat) : Board Float := (b.boards[request]?).getD (.blank 0)

/-- Changes the score of a request. -/
def setBoard (b : Bench) (request : Nat) (s : Board Float) : Bench :=
  { b with boards := b.boards.set request s }

theorem board_setBoard_self {b : Bench} {request : Nat} {s : Board Float} (h : request < b.boards.length) :
    (b.setBoard request s).board request = s := by
  simp [board, setBoard, h]

theorem board_setBoard_of_ne {b : Bench} {request other : Nat} {s : Board Float} (h : other ≠ request) :
    (b.setBoard request s).board other = b.board other := by
  simp [board, setBoard, List.getElem?_set_ne h.symm]

/-- Hands out the guard of a slot. -/
def lock (b : Bench) (request slot : Nat) : Bench :=
  b.setBoard request ((b.board request).attempt (.lock slot))

/-- Gives back the guard of a slot. -/
def unlock (b : Bench) (request slot : Nat) : Bench := b.setBoard request ((b.board request).releaseNow slot)

/-- Writes a slot under its guard. -/
def write (b : Bench) (request slot : Nat) (points : Float) : Bench :=
  b.setBoard request ((b.board request).attempt (.write slot slot points))

/-- Writes a slot without a guard. -/
def update (b : Bench) (request slot : Nat) (points : Float) : Bench :=
  b.setBoard request ((b.board request).attempt (.update slot points))

/-- The bench with no record of what was asked. -/
def forgetAsked (b : Bench) : Bench := { b with queries := [], subjects := [] }

/-- Counts a failure of the check in a slot. -/
def fail (b : Bench) (slot : Nat) : Bench := b.setMemory slot ((b.memory slot).fail b.now)

end Bench

/-- What a probe found. -/
inductive Finding where
  /-- Something with a weight. -/
  | points (x : Float)
  /-- Nothing that counts. -/
  | neutral
  /-- No answer. -/
  | failure
deriving Repr

namespace Finding

/-- What a listing weighs. -/
def ofListing (t : WeightTable Float) : Listing → Finding
  | .addresses answers =>
    match t.heaviest? answers with
    | some x => points x
    | none => neutral
  | .unlisted => neutral
  | .failed => failure

/-- What the result of a sender policy weighs. -/
def ofResult (w : SpfWeights Float) (r : SpfResult) : Finding :=
  match w.weight? r with
  | some x => points x
  | none => failure

end Finding

namespace Bench

/-- The bench after a probe has found something. -/
def settleFinding (b : Bench) (request slot : Nat) : Finding → Bench
  | .points x => b.write request slot x
  | .neutral => b
  | .failure => b.fail slot

end Bench

namespace Probe

/-- How a probe goes on after its start, and whom it asks. -/
def start (net : Network) (b : Bench) (now : Nat) (p : Probe) : Course × Bench :=
  match b.checks[p.slot]? with
  | some (.blockList c) =>
    match c.query? p.attributes with
    | none => (.ready, b)
    | some name =>
      let b := { b with queries := b.queries ++ [name] }
      match net.listed name with
      | .after 0 _ => (.ready, b)
      | .after delay _ => (.sleeps (now + delay), b)
      | .never => (.hangs, b)
  | _ => (.ready, b)

/-- What a probe finds, and whose policy it evaluates. -/
def find (net : Network) (b : Bench) (p : Probe) : Finding × Bench :=
  match b.checks[p.slot]? with
  | some (.blockList c) =>
    match (c.query? p.attributes).map net.listed with
    | some (.after _ listing) => (.ofListing c.table listing, b)
    | some .never => (.neutral, b)
    | none => (.neutral, b)
  | some (.senderPolicy c) =>
    match SenderPolicy.subject? p.attributes with
    | some (sender, helo, client) =>
      let subject : Subject := ⟨sender, helo, client⟩
      (.ofResult c.weights (net.policy b.subjects.length subject),
        { b with subjects := b.subjects ++ [subject] })
    | none => (.neutral, b)
  | _ => (.neutral, b)

/-- Ends a probe: what it found is written or counted, and its guard is given back. -/
def finish (net : Network) (b : Bench) (p : Probe) : Ending × Bench :=
  let (finding, b) := p.find net b
  let b := b.settleFinding p.request p.slot finding
  let broken := (b.memory p.slot).tracker?.any (·.overflowed)
  (if broken then .panicked else .returned, b.unlock p.request p.slot)

/-- The way a pool handles probes. -/
def handler (net : Network) : Handler Probe Bench where
  start b now p := p.start net b now
  finish b p := p.finish net b

end Probe
end MailPolicy
