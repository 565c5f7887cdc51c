/-
Search of a field for a regular expression.

* `PatternCheck.make` builds the check; the expression is read before the weights are looked at;
* `PatternCheck.weight?` is what the check adds for a request.
-/
import MailPolicy.Check.ValueList
import MailPolicy.Pattern.Reader

namespace MailPolicy

/-- A search for a regular expression. -/
structure PatternCheck where
  name : Text
  field : Field
  regex : Regex
  weights : HitMiss Float

namespace PatternCheck

/-- The check with the given settings. -/
def make (s : PatternSettings) : Except CheckError PatternCheck :=
  match Regex.make? s.pattern with
  | none => .error (.unusable s.name (.badPattern s.pattern))
  | some regex =>
    if !s.weights.isFinite then .error (.unusable s.name .weightNotFinite)
    else .ok { name := s.name, field := s.field, regex := regex, weights := s.weights }

/-- What the check adds for a request; nothing if the field is absent. -/
def weight? (c : PatternCheck) (r : Request) : Option Float :=
  (r.field? c.field).bind fun value => c.weights.pick (c.regex.isMatch value)

end PatternCheck
end MailPolicy
