/-
The settings of checks, one record for each kind, as a configuration gives them.
-/
import MailPolicy.Backoff
import MailPolicy.Check.Kind
import MailPolicy.Request
import MailPolicy.Spf.Result

namespace MailPolicy

/-- A row of a weight table: answers in the network get the weight. -/
structure WeightRow where
  network : Text
  weight : Float
deriving Repr

/-- The settings of a reputation list. -/
structure BlockListSettings where
  name : Text
  zone : Text
  /-- The field whose value is looked up. -/
  field : Option Field
  /-- The weight of any answer in the loopback network. -/
  weight : Option Float
  /-- Weights of single answers. -/
  weights : List WeightRow
  backoff : Option BackoffSettings
deriving Repr

/-- The settings of a sender policy check. -/
structure SpfSettings where
  name : Text
  weights : SpfWeights Float
  backoff : Option BackoffSettings
deriving Repr

/-- The settings of a comparison with a list of values. -/
structure ValueListSettings where
  name : Text
  field : Field
  values : List Text
  caseSensitive : Bool
  weights : HitMiss Float
deriving Repr

/-- The settings of a regular expression check. -/
structure PatternSettings where
  name : Text
  field : Field
  pattern : Text
  weights : HitMiss Float
deriving Repr

/-- The settings of a look-up in a file of values. -/
structure KeyFileSettings where
  name : Text
  field : Field
  path : Text
  weights : HitMiss Float
  backoff : Option BackoffSettings
deriving Repr

/-- The settings of a check. -/
inductive CheckSettings where
  | dnsbl (s : BlockListSettings)
  | rhsbl (s : BlockListSettings)
  | spf (s : SpfSettings)
  | str (s : ValueListSettings)
  | pcre (s : PatternSettings)
  | hash (s : KeyFileSettings)
deriving Repr

namespace CheckSettings

/-- The kind of the check. -/
def kind : CheckSettings → CheckKind
  | dnsbl _ => .dnsbl
  | rhsbl _ => .rhsbl
  | spf _ => .spf
  | str _ => .str
  | pcre _ => .pcre
  | hash _ => .hash

/-- The name of the check. -/
def name : CheckSettings → Text
  | dnsbl s => s.name
  | rhsbl s => s.name
  | spf s => s.name
  | str s => s.name
  | pcre s => s.name
  | hash s => s.name

/-- The back-off settings of its own that the check has. -/
def backoff : CheckSettings → Option BackoffSettings
  | dnsbl s => s.backoff
  | rhsbl s => s.backoff
  | spf s => s.backoff
  | str _ => none
  | pcre _ => none
  | hash s => s.backoff

end CheckSettings
end MailPolicy
