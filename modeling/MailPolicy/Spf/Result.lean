/-
The results of a sender policy evaluation, and a weight for each that has one.

A temporary error says nothing about the sender, so it has no weight.
-/
import MailPolicy.Bounds

namespace MailPolicy

/-- The result of a sender policy evaluation. -/
inductive SpfResult where
  | pass
  | fail
  | softfail
  | neutral
  | none
  | temperror
  | permerror
deriving DecidableEq, Repr, Inhabited

namespace SpfResult

/-- Every result, in the order in which they are listed. -/
def all : List SpfResult := [pass, fail, softfail, neutral, none, temperror, permerror]

/-- The word for a result. -/
def name : SpfResult → String
  | pass => "pass"
  | fail => "fail"
  | softfail => "softfail"
  | neutral => "neutral"
  | none => "none"
  | temperror => "temperror"
  | permerror => "permerror"

/-- The result that a word stands for. -/
def ofName? (s : String) : Option SpfResult := all.find? (·.name == s)

end SpfResult

/-- A weight for each result but a temporary error. -/
structure SpfWeights (α : Type) where
  pass : α
  fail : α
  softfail : α
  neutral : α
  none : α
  permerror : α
deriving DecidableEq, Repr

namespace SpfWeights

variable {α : Type}

/-- The weight of a result. -/
def weight? (w : SpfWeights α) : SpfResult → Option α
  | .pass => some w.pass
  | .fail => some w.fail
  | .softfail => some w.softfail
  | .neutral => some w.neutral
  | .none => some w.none
  | .permerror => some w.permerror
  | .temperror => Option.none

/-- Every weight. -/
def all (w : SpfWeights α) : List α := [w.pass, w.fail, w.softfail, w.neutral, w.none, w.permerror]

theorem mem_all_of_weight? {w : SpfWeights α} {r : SpfResult} {x : α} (h : w.weight? r = some x) :
    x ∈ w.all := by
  cases r <;> simp_all [weight?, all]

end SpfWeights
end MailPolicy
