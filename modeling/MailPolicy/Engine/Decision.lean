/-
Decisions on requests.

Stages are evaluated in order.  After each of them the total may already fix the verdict, whatever the later
stages add; then they are left out, unless that is not wanted.

* `Decision.run` is the loop, for any way of evaluating a stage;
* `Plan` is a decision that is carried on stage by stage, and `Plan.carryOut_run` says that this comes to the
  same;
* `Responses.answer` is the action that an outcome is answered with.
-/
import MailPolicy.Config.Basic
import MailPolicy.Stage

namespace MailPolicy

/-- A decision on a request. -/
structure Decision (α : Type) where
  verdict : Verdict
  /-- The total over the stages that were evaluated. -/
  total : α
  /-- How many stages were evaluated. -/
  stagesRun : Nat
deriving DecidableEq, Repr

namespace Decision

variable {κ α : Type} [Add α] [LE α] [DecidableLE α]

/-- Decides by the remaining stages, `run` having been evaluated with the given total.  `evaluate` evaluates
the checks of a stage and gives the total after it. -/
def run {m : Type → Type} [Monad m] (t : Thresholds α) (shortCircuit : Bool)
    (evaluate : PlacedStage κ α → m α) (stagesRun : Nat) (total : α) :
    List (PlacedStage κ α) → m (Decision α)
  | [] => pure ⟨.ofTotal t total, total, stagesRun⟩
  | stage :: rest => do
    let total ← evaluate stage
    match if shortCircuit then stage.fixedVerdict? t total else none with
    | some verdict => pure ⟨verdict, total, stagesRun + 1⟩
    | none => run t shortCircuit evaluate (stagesRun + 1) total rest

end Decision

/-- Something to be done that asks for the totals after stages on the way. -/
inductive Plan (κ α β : Type) where
  | done (result : β)
  /-- A stage is to be evaluated; `next` is how it goes on with the total after it. -/
  | evaluate (stage : PlacedStage κ α) (next : α → Plan κ α β)

namespace Plan

variable {κ α β γ : Type}

/-- The plan that asks for the total after one stage. -/
def ask (stage : PlacedStage κ α) : Plan κ α α := .evaluate stage .done

/-- One plan after another. -/
def andThen : Plan κ α β → (β → Plan κ α γ) → Plan κ α γ
  | done b, f => f b
  | evaluate stage next, f => evaluate stage fun total => (next total).andThen f

instance : Monad (Plan κ α) where
  pure := done
  bind := andThen

/-- Does what a plan says, with a way of evaluating stages. -/
def carryOut {m : Type → Type} [Monad m] (evaluate : PlacedStage κ α → m α) : Plan κ α β → m β
  | done b => pure b
  | .evaluate stage next => do (next (← evaluate stage)).carryOut evaluate

variable [Add α] [LE α] [DecidableLE α]

theorem carryOut_run {m : Type → Type} [Monad m] (t : Thresholds α) (shortCircuit : Bool)
    (evaluate : PlacedStage κ α → m α) (stagesRun : Nat) (total : α) (stages : List (PlacedStage κ α)) :
    (Decision.run t shortCircuit ask stagesRun total stages).carryOut evaluate =
      Decision.run t shortCircuit evaluate stagesRun total stages := by
  induction stages generalizing stagesRun total with
  | nil => rfl
  | cons stage rest ih =>
    simp only [Decision.run, bind, andThen, ask, carryOut]
    congr 1
    funext total
    split
    · rfl
    · exact ih _ _

end Plan

/-- The action that an outcome is answered with. -/
def Responses.answer {α : Type} (r : Responses) : Except Fault (Decision α) → Text
  | .ok d =>
    match d.verdict with
    | .allow => r.allow
    | .delay => r.delay
    | .block => r.block
  | .error _ => r.error

end MailPolicy
