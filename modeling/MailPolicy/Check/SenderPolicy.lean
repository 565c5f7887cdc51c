/-
The check of the sender policy, its evaluation apart.

Each result has a weight, except for a temporary error, which counts as a failure of the domain name system.
-/
import MailPolicy.Check.Error
import MailPolicy.Check.Settings

namespace MailPolicy

/-- Whether both ends of a range are finite numbers. -/
def Bounds.isFinite (b : Bounds Float) : Bool := b.low.isFinite && b.high.isFinite

/-- A sender policy check. -/
structure SenderPolicy where
  name : Text
  weights : SpfWeights Float
deriving Repr

namespace SenderPolicy

/-- The range of what the check adds. -/
def bounds (c : SenderPolicy) : Bounds Float := .ofWeights c.weights.all

/-- The check with the given settings. -/
def make (s : SpfSettings) : Except CheckError SenderPolicy :=
  let c : SenderPolicy := { name := s.name, weights := s.weights }
  if c.bounds.isFinite then .ok c else .error (.unusable s.name .weightNotFinite)

/-- What the evaluation needs of a request: the address of the client. -/
def subject? (r : Request) : Option (Option Text × Option Text × IpAddress) :=
  r.clientAddress?.map fun a => (r.sender?, r.heloName?, a)

end SenderPolicy
end MailPolicy
