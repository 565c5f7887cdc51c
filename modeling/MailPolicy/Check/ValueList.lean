/-
Comparison of a field with a list of values from the configuration.

* `ValueList.make` builds the check; it wants at least one value and finite weights;
* `ValueList.contains` is the comparison, by default up to case;
* `ValueList.weight?` is what the check adds for a request.
-/
import MailPolicy.Check.Error
import MailPolicy.Check.Settings

namespace MailPolicy

/-- Whether every weight is a finite number. -/
def HitMiss.isFinite (w : HitMiss Float) : Bool := w.weights.all Float.isFinite

/-- The range of what is added. -/
def HitMiss.bounds (w : HitMiss Float) : Bounds Float := .ofWeights w.weights

/-- A comparison with a list of values. -/
structure ValueList where
  name : Text
  field : Field
  caseSensitive : Bool
  /-- The values, in lower case unless case matters. -/
  values : List Text
  weights : HitMiss Float
deriving Repr

namespace ValueList

/-- The form in which values are compared. -/
def normalize (caseSensitive : Bool) (value : Text) : Text :=
  if caseSensitive then value else Text.lower value

/-- The check with the given settings. -/
def make (s : ValueListSettings) : Except CheckError ValueList :=
  if s.values.isEmpty then .error (.unusable s.name .noValues)
  else if !s.weights.isFinite then .error (.unusable s.name .weightNotFinite)
  else
    .ok {
      name := s.name
      field := s.field
      caseSensitive := s.caseSensitive
      values := s.values.map (normalize s.caseSensitive)
      weights := s.weights }

/-- Whether a value is in the list. -/
def contains (c : ValueList) (value : Text) : Bool := c.values.contains (normalize c.caseSensitive value)

/-- What the check adds for a request; nothing if the field is absent. -/
def weight? (c : ValueList) (r : Request) : Option Float :=
  (r.field? c.field).bind fun value => c.weights.pick (c.contains value)

end ValueList
end MailPolicy
