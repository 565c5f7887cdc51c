/-
Decisions on given outcomes.

What a decision comes to depends on its checks only through what each of them writes into its slot, and
through the faults that end it early.  `Decision.ofOutcomes` is the loop of `Decision.run` on a score of its
own, with the outcomes given in advance: nothing runs beside it and nobody waits.

* `PlacedStage.slots` are the slots of a stage;
* `PlacedStage.evaluate` writes the outcomes of a stage and adds up the score;
* `Decision.ofOutcomes` decides.
-/
import MailPolicy.Engine.Decision
import MailPolicy.Score

namespace MailPolicy

variable {κ α : Type}

/-- What the checks of a request come to. -/
structure Outcomes (κ α : Type) where
  /-- What the check in a slot writes, if it writes anything. -/
  points : Nat → Option α
  /-- The fault that the evaluation of a stage ends in, if there is one: a probe that is refused, or a wait
  that lasts too long. -/
  fault? : PlacedStage κ α → Option Fault := fun _ => none

/-- The score with what the check in a slot writes. -/
def Score.record (s : Score α) (points : Nat → Option α) (slot : Nat) : Score α :=
  match points slot with
  | some x => s.update slot x
  | none => s

namespace PlacedStage

/-- The slots of the checks of a stage. -/
def slots (stage : PlacedStage κ α) : List Nat := List.range' stage.firstSlot stage.stage.checks.length

/-- Writes what the checks of a stage come to: the total after it, or its fault. -/
def evaluate [Zero α] [Add α] (o : Outcomes κ α) (stage : PlacedStage κ α) :
    StateT (Score α) (Except Fault) α := fun score =>
  match o.fault? stage with
  | some f => .error f
  | none =>
    let score := stage.slots.foldl (·.record o.points) score
    .ok (score.total, score)

end PlacedStage

/-- The decision by given outcomes, on a fresh score. -/
def Decision.ofOutcomes [Zero α] [Add α] [LE α] [DecidableLE α] (t : Thresholds α) (shortCircuit : Bool)
    (o : Outcomes κ α) (stages : List (PlacedStage κ α)) : Except Fault (Decision α) :=
  (Decision.run t shortCircuit (PlacedStage.evaluate o) 0 0 stages).run'
    (.blank (Stage.slotCount (stages.map (·.stage))))

end MailPolicy
