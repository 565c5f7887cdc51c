/-
Verdicts and the rule that turns a total into one.

A total at or above the block threshold blocks; one below that but at or above the delay threshold delays;
any other is allowed.  The rule asks only for an order, so it reads the same for doubles, where a total that
compares with nothing is allowed, and for exact numbers, where `Verdict.severity_ofTotal_mono` holds.
-/
namespace MailPolicy

/-- The outcome of a request. -/
inductive Verdict where
  | allow
  | delay
  | block
deriving DecidableEq, Repr, Inhabited

namespace Verdict

/-- The word for a verdict. -/
def name : Verdict → String
  | allow => "allow"
  | delay => "delay"
  | block => "block"

/-- How severe a verdict is. -/
def severity : Verdict → Nat
  | allow => 0
  | delay => 1
  | block => 2

theorem severity_injective {v w : Verdict} (h : v.severity = w.severity) : v = w := by
  cases v <;> cases w <;> simp_all [severity]

end Verdict

/-- The totals from which on mail is delayed and blocked. -/
structure Thresholds (α : Type) where
  delay : α
  block : α
deriving Repr

variable {α : Type} [LE α] [DecidableLE α]

/-- The verdict on a total. -/
def Verdict.ofTotal (t : Thresholds α) (total : α) : Verdict :=
  if t.block ≤ total then block
  else if t.delay ≤ total then delay
  else allow

/-- A greater total never gets a milder verdict. -/
theorem Verdict.severity_ofTotal_mono (trans : ∀ {a b c : α}, a ≤ b → b ≤ c → a ≤ c)
    {t : Thresholds α} {a b : α} (hab : a ≤ b) :
    (ofTotal t a).severity ≤ (ofTotal t b).severity := by
  unfold ofTotal
  by_cases hb : t.block ≤ a
  · simp [hb, trans hb hab]
  · by_cases hd : t.delay ≤ a
    · simp only [hb, if_false, hd, if_true, trans hd hab]
      split <;> simp [severity]
    · simp [hb, hd, severity]

end MailPolicy
