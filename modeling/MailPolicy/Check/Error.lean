/-
What goes wrong with a check: its settings cannot be used, or a pool refuses its work.

`CheckError.message` is the text, `CheckError.fault` what becomes of the error at the boundary: the first
breaks the configuration, the second ends the request at hand.
-/
import MailPolicy.Fault
import MailPolicy.Files
import MailPolicy.Pool.Basic
import MailPolicy.Text.Quoted

namespace MailPolicy

/-- Why the settings of a check cannot be used. -/
inductive Unusable where
  /-- A list of values is empty. -/
  | noValues
  /-- A weight is infinite or no number. -/
  | weightNotFinite
  /-- A regular expression is malformed. -/
  | badPattern (pattern : Text)
  /-- A file of values cannot be read. -/
  | unreadable (path : Text) (error : FileError)
  /-- A list of addresses is given a field other than the client address. -/
  | addressListField
  /-- A list of domains is given the client address. -/
  | domainListField
  /-- A zone is empty or has a blank in it. -/
  | badZone
  /-- A network is malformed. -/
  | badNetwork (network : Text)
  /-- A list has neither a weight of its own nor a table of weights. -/
  | noWeights
deriving DecidableEq, Repr

/-- The text of a reason. -/
def Unusable.message : Unusable → String
  | noValues => "no values to compare against"
  | weightNotFinite => "weights must be finite"
  | badPattern pattern => "invalid pattern " ++ Text.quoted pattern
  | unreadable path error => String.ofList path ++ ": " ++ error.message
  | addressListField => "dnsbl checks always query the client address"
  | domainListField => "rhsbl checks need a domain attribute"
  | badZone => "invalid zone"
  | badNetwork network => "invalid network " ++ Text.quoted network ++ ": invalid IP address syntax"
  | noWeights => "needs \x60weight\x60 or at least one \x60weights\x60 entry"

/-- What goes wrong with a check. -/
inductive CheckError where
  | unusable (check : Text) (reason : Unusable)
  | rejected (check : Text) (reason : PoolError)
deriving DecidableEq, Repr

namespace CheckError

/-- The word for the kind of error. -/
def name : CheckError → String
  | unusable .. => "Config"
  | rejected .. => "Rejected"

/-- The text of the error. -/
def message : CheckError → String
  | unusable check reason => "check " ++ String.ofList check ++ ": " ++ reason.message
  | rejected check reason => "check " ++ String.ofList check ++ ": " ++ reason.message

/-- The fault that the error is. -/
def fault (e : CheckError) : Fault :=
  match e with
  | unusable .. => ⟨.config, e.message⟩
  | rejected .. => ⟨.exhausted, e.message⟩

end CheckError
end MailPolicy
