/-
Decisions that go on at the same time.

Any number of calls decide requests with one engine, and the workers of its pools are shared by all of them.
A step below is one critical section of a call, of a worker or of a signal, so that the steps of different
parties interleave in any order.  Every call has a score of its own; a probe carries the number of its request
and its slot.

Beside what decides how it goes on, a call keeps a record: the slots of the checks it has evaluated, and what
each of them came to when it ended.

* `Check.atOnce?` — what a check comes to when it is evaluated, unless that takes a probe;
* `Check.ComesTo` — what a check can come to, at once or by a probe;
* `Phase` — where a call stands;
* `Traffic.Step` — what can happen;
* `Traffic.Reachable` — what can come about.
-/
import MailPolicy.Engine.Outcomes
import MailPolicy.Engine.Progress

namespace MailPolicy

/-! ### Calls -/

/-- What a check comes to at once, for a request and with what it remembers; nothing if it takes a probe. -/
def Check.atOnce? (c : Check) (m : Memory) (now : Nat) (r : Request) : Option (Option Float) :=
  match c with
  | valueList c => some (c.weight? r)
  | pattern c => some (c.weight? r)
  | keyFile c =>
    match m with
    | .keys file => some (c.weight? file r)
    | _ => some none
  | blockList _ | senderPolicy _ => if m.omits now then some none else none

/-- What a probe that found something has to write. -/
def Finding.points? : Finding → Option Float
  | points x => some x
  | neutral => none
  | failure => none

/-- Whether a check in a slot can come to what is given, for a request: it answers so at once, or its probe
finds so; a probe that panics finds nothing. -/
inductive Check.ComesTo (c : Check) (slot : Nat) (r : Request) : Option Float → Prop where
  | atOnce (m : Memory) (now : Nat) {points : Option Float} : c.atOnce? m now r = some points →
      ComesTo c slot r points
  | found (net : Network) (b : Bench) (request : Nat) : c.kind.isBackground = true →
      b.checks[slot]? = some c → ComesTo c slot r ((Probe.mk request slot r).find net b).1.points?
  | panicked : c.kind.isBackground = true → ComesTo c slot r none

/-- Writes what a check came to at once. -/
def Bench.record (b : Bench) (request slot : Nat) (points : Option Float) : Bench :=
  match points with
  | some x => b.update request slot x
  | none => b

/-- Where the call of a decision stands. -/
inductive Phase where
  /-- About to evaluate the check of a stage with the number `offset`, or to wait if there is none; `next` is
  how it goes on with the total after the stage. -/
  | evaluating (stage : PlacedStage Check Float) (offset : Nat) (next : Float → Plan Check Float (Decision Float))
  /-- Holds the guard of that check and is about to queue its probe. -/
  | submitting (stage : PlacedStage Check Float) (offset : Nat) (next : Float → Plan Check Float (Decision Float))
  /-- Still holds the guard of a probe that was refused. -/
  | refused (slot : Nat) (error : CheckError)
  /-- Waits for the guards of a stage, under the given number. -/
  | waiting (stage : PlacedStage Check Float) (waiter : Nat) (next : Float → Plan Check Float (Decision Float))
  /-- Has returned. -/
  | returned (outcome : Except Fault (Decision Float))

/-- Where a call stands with something left to do. -/
def Phase.ofPlan : Plan Check Float (Decision Float) → Phase
  | .done d => .returned (.ok d)
  | .evaluate stage next => .evaluating stage 0 next

/-- The call of a decision. -/
structure Call where
  attributes : Request
  phase : Phase
  /-- The slots of the checks that were evaluated, in order. -/
  evaluated : List Nat := []
  /-- What the check in a slot came to, once it has ended. -/
  ended : Nat → Option (Option Float) := fun _ => none

namespace Call

/-- The call with what the check in a slot came to. -/
def log (c : Call) (slot : Nat) (points : Option Float) : Call :=
  { c with ended := fun i => if i = slot then some points else c.ended i }

/-- What the checks of the call have written. -/
def points (c : Call) (slot : Nat) : Option Float := (c.ended slot).join

/-- The outcomes of the checks, as far as they have ended. -/
def outcomes (c : Call) : Outcomes Check Float := { points := c.points }

/-- The call after it has evaluated the check in a slot. -/
def evaluate (c : Call) (slot : Nat) (phase : Phase) : Call :=
  { c with evaluated := c.evaluated ++ [slot], phase := phase }

end Call

namespace Engine

/-- All checks of an engine, by slot. -/
def checks (e : Engine) : List Check := e.stages.flatMap (·.stage.checks)

/-- How long a call waits for a stage. -/
def stageLimit (e : Engine) : Span := ⟨e.policy.stageTimeout⟩

/-- How a call goes on when its wait has ended. -/
def afterWait (b : Bench) (request : Nat) (stage : PlacedStage Check Float)
    (next : Float → Plan Check Float (Decision Float)) (result : WaitResult) : Phase :=
  match stageTotal b request stage.stage.name result with
  | .ok total => .ofPlan (next total)
  | .error f => .returned (.error f)

end Engine

/-- Whether an action is one of a waiter or a signal. -/
def BoardAction.isWaiting {α : Type} : BoardAction α → Bool
  | signal | read _ | wake _ | expire _ _ | report _ => true
  | _ => false

/-! ### Traffic -/

/-- Calls of decisions that share an engine; the call of a request has the number of its score. -/
structure Traffic where
  bench : Bench
  pools : CheckKind → Pool Probe
  calls : List Call := []

namespace Traffic

/-- The traffic with a call changed. -/
def setCall (t : Traffic) (request : Nat) (c : Call) : Traffic := { t with calls := t.calls.set request c }

/-- The traffic with the score of a request changed. -/
def setBoard (t : Traffic) (request : Nat) (b : Board Float) : Traffic :=
  { t with bench := t.bench.setBoard request b }

/-- The traffic with a pool changed. -/
def setPool (t : Traffic) (kind : CheckKind) (p : Pool Probe) : Traffic :=
  { t with pools := fun k => if k = kind then p else t.pools k }

/-- Whether no worker ends the call of its handler while the guard of its probe is out. -/
def EndsReleased (t : Traffic) (kind : CheckKind) (a : PoolAction Probe) : Prop :=
  ∀ worker p, a = .finish worker ∨ a = .panic worker → (t.pools kind).staff[worker]? = some (.running p) →
    p.slot ∉ (t.bench.board p.request).guards

/-- What can happen while an engine decides requests. -/
inductive Step (e : Engine) (t : Traffic) : Traffic → Prop
  /-- A request comes. -/
  | begin (r : Request) :
      Step e t {
        bench := { t.bench with boards := t.bench.boards ++ [.blank e.slots] }
        pools := t.pools
        calls := t.calls ++ [{ attributes := r, phase := .ofPlan e.plan }] }
  /-- A check is evaluated that answers at once. -/
  | answer {request offset : Nat} {call : Call} {stage : PlacedStage Check Float}
      {next : Float → Plan Check Float (Decision Float)} {c : Check} {points : Option Float} :
      t.calls[request]? = some call → call.phase = .evaluating stage offset next →
      stage.stage.checks[offset]? = some c →
      c.atOnce? (t.bench.memory (stage.firstSlot + offset)) t.bench.now call.attributes = some points →
      Step e t (({ t with bench := t.bench.record request (stage.firstSlot + offset) points }).setCall request
        ((call.evaluate (stage.firstSlot + offset) (.evaluating stage (offset + 1) next)).log
          (stage.firstSlot + offset) points))
  /-- A check is evaluated that takes a probe: a guard is handed out for it. -/
  | lock {request offset : Nat} {call : Call} {stage : PlacedStage Check Float}
      {next : Float → Plan Check Float (Decision Float)} {c : Check} {b : Board Float} :
      t.calls[request]? = some call → call.phase = .evaluating stage offset next →
      stage.stage.checks[offset]? = some c →
      c.atOnce? (t.bench.memory (stage.firstSlot + offset)) t.bench.now call.attributes = none →
      (t.bench.board request).step (.lock (stage.firstSlot + offset)) = some b →
      Step e t ((t.setBoard request b).setCall request
        (call.evaluate (stage.firstSlot + offset) (.submitting stage offset next)))
  /-- The probe is queued. -/
  | queue {request offset : Nat} {call : Call} {stage : PlacedStage Check Float}
      {next : Float → Plan Check Float (Decision Float)} {c : Check} {q : Pool Probe} :
      t.calls[request]? = some call → call.phase = .submitting stage offset next →
      stage.stage.checks[offset]? = some c →
      (t.pools c.kind).submit ⟨request, stage.firstSlot + offset, call.attributes⟩ = .ok q →
      Step e t ((t.setPool c.kind q).setCall request { call with phase := .evaluating stage (offset + 1) next })
  /-- The probe is refused. -/
  | refuse {request offset : Nat} {call : Call} {stage : PlacedStage Check Float}
      {next : Float → Plan Check Float (Decision Float)} {c : Check} {reason : PoolError} :
      t.calls[request]? = some call → call.phase = .submitting stage offset next →
      stage.stage.checks[offset]? = some c →
      (t.pools c.kind).submit ⟨request, stage.firstSlot + offset, call.attributes⟩ = .error reason →
      Step e t (t.setCall request
        { call with phase := .refused (stage.firstSlot + offset) (.rejected c.name reason) })
  /-- The guard of a probe that was refused is given back, and the call returns the error. -/
  | giveBack {request slot : Nat} {call : Call} {error : CheckError} {b : Board Float} :
      t.calls[request]? = some call → call.phase = .refused slot error →
      (t.bench.board request).step (.release slot) = some b →
      Step e t ((t.setBoard request b).setCall request { call with phase := .returned (.error error.fault) })
  /-- All checks of a stage have been evaluated, and the call starts to wait. -/
  | enter (now : Nat) {request offset : Nat} {call : Call} {stage : PlacedStage Check Float}
      {next : Float → Plan Check Float (Decision Float)} {b : Board Float} :
      t.calls[request]? = some call → call.phase = .evaluating stage offset next →
      stage.stage.checks[offset]? = none →
      (t.bench.board request).step (.enter e.stageLimit (now + e.stageLimit.millis)) = some b →
      Step e t ((t.setBoard request b).setCall request
        { call with phase := .waiting stage (t.bench.board request).waiters.length next })
  /-- Someone who waits goes on, or a signal is given. -/
  | attend {request : Nat} {a : BoardAction Float} {b : Board Float} : a.isWaiting = true →
      (t.bench.board request).step a = some b → Step e t (t.setBoard request b)
  /-- A call has waited to the end. -/
  | proceed {request waiter : Nat} {call : Call} {stage : PlacedStage Check Float}
      {next : Float → Plan Check Float (Decision Float)} {result : WaitResult} :
      t.calls[request]? = some call → call.phase = .waiting stage waiter next →
      (t.bench.board request).waiters[waiter]? = some (.done result) →
      Step e t (t.setCall request { call with phase := Engine.afterWait t.bench request stage next result })
  /-- Something happens in a pool, other than a submit. -/
  | work {kind : CheckKind} {a : PoolAction Probe} {q : Pool Probe} : (∀ task, a ≠ .submit task) →
      t.EndsReleased kind a → (t.pools kind).step a = some q → Step e t (t.setPool kind q)
  /-- A probe finds something, which is written or counted. -/
  | find {kind : CheckKind} {worker : Nat} {p : Probe} {call : Call} (net : Network) :
      (t.pools kind).staff[worker]? = some (.running p) → t.calls[p.request]? = some call →
      call.ended p.slot = none →
      Step e t (({ t with
        bench := (p.find net t.bench).2.settleFinding p.request p.slot (p.find net t.bench).1 }).setCall
        p.request (call.log p.slot (p.find net t.bench).1.points?))
  /-- A probe panics before it has found anything. -/
  | collapse {kind : CheckKind} {worker : Nat} {p : Probe} {call : Call} :
      (t.pools kind).staff[worker]? = some (.running p) → t.calls[p.request]? = some call →
      call.ended p.slot = none → Step e t (t.setCall p.request (call.log p.slot none))
  /-- A probe that is done, one way or the other, gives its guard back. -/
  | release {kind : CheckKind} {worker : Nat} {p : Probe} {call : Call} {b : Board Float} :
      (t.pools kind).staff[worker]? = some (.running p) → t.calls[p.request]? = some call →
      (call.ended p.slot).isSome = true → (t.bench.board p.request).step (.release p.slot) = some b →
      Step e t (t.setBoard p.request b)
  /-- Time passes, and what checks remember changes in any way. -/
  | outside (memories : List Memory) (now : Nat) (queries : List Text) (subjects : List Subject) :
      Step e t { t with
        bench := { t.bench with memories := memories, now := now, queries := queries, subjects := subjects } }

/-- The traffic of an engine before any request. -/
def start (e : Engine) (memories : List Memory) (now : Nat) (pools : CheckKind → PoolSettings)
    (hosted : Bool) : Traffic where
  bench := { checks := e.checks, memories := memories, now := now }
  pools := fun kind => .ofSettings kind.name (pools kind) hosted

/-- What can come of some traffic. -/
inductive Leads (e : Engine) (t : Traffic) : Traffic → Prop
  | refl : Leads e t t
  | step {u v : Traffic} : Leads e t u → Step e u v → Leads e t v

/-- What can come about from the start. -/
def Reachable (e : Engine) (t : Traffic) : Prop :=
  ∃ memories now pools hosted, Leads e (start e memories now pools hosted) t

end Traffic
end MailPolicy
