/-
Decisions under way.

While one request waits for its checks others are decided by the same engine.  A decision is therefore carried
on in pieces: it starts, it is suspended where it has to wait, and it is resumed.

* `Engine.start` begins a decision and carries it on until it waits or is over;
* `Engine.resume` carries on one that waits.
-/
import MailPolicy.Engine.Basic

namespace MailPolicy

/-- A decision that waits for the guards of a stage. -/
structure Suspended where
  /-- The number of the request. -/
  request : Nat
  attributes : Request
  /-- The number of the waiter at the score of the request. -/
  waiter : Nat
  /-- The instant at which the wait ends. -/
  due : Nat
  /-- The name of the stage. -/
  stage : Text
  /-- How the decision goes on with the total after the stage. -/
  next : Float → Plan Check Float (Decision Float)

/-- How far a decision has come. -/
inductive Progress where
  | over (outcome : Except Fault (Decision Float))
  | waits (s : Suspended)

namespace Engine

/-- Carries on a plan until it waits or is over. -/
def carryOn (e : Engine) (request : Nat) (r : Request) :
    Plan Check Float (Decision Float) → EngineState → Progress × EngineState
  | .done d, s => (.over (.ok d), s)
  | .evaluate stage next, s =>
    match EngineState.evaluateAll request stage.firstSlot r stage.stage.checks s with
    | (.error err, s) => (.over (.error err.fault), s)
    | (.ok (), s) =>
      let limit : Span := ⟨e.policy.stageTimeout⟩
      let board := s.bench.board request
      let waiter := board.waiters.length
      let due := s.clock + limit.millis
      let s := { s with bench := s.bench.setBoard request (board.attempt (.enter limit due)) }
      let s := s.advanceWaiter request waiter
      match s.waited? request waiter with
      | some .quiet => carryOn e request r (next (s.bench.board request).score.total) s
      | _ => (.waits ⟨request, r, waiter, due, stage.stage.name, next⟩, s)

/-- The plan of a decision. -/
def plan (e : Engine) : Plan Check Float (Decision Float) :=
  Decision.run e.policy.thresholds e.policy.shortCircuit Plan.ask 0 0 e.stages

/-- Begins to decide a request. -/
def start (e : Engine) (r : Request) (s : EngineState) : Progress × EngineState :=
  let (request, s) := s.openBoard e.slots
  e.carryOn request r e.plan s

/-- Carries on a decision that waits. -/
def resume (e : Engine) (p : Suspended) (s : EngineState) : Progress × EngineState :=
  let s := s.advanceWaiter p.request p.waiter
  match s.waited? p.request p.waiter with
  | none => (.waits p, s)
  | some result =>
    match stageTotal s.bench p.request p.stage result with
    | .ok total => e.carryOn p.request p.attributes (p.next total) s
    | .error f => (.over (.error f), s)

end Engine
end MailPolicy
