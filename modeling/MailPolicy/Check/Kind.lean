/-
The kinds of checks.  Those that ask the domain name system work in the background, on a pool of their kind.
-/
namespace MailPolicy

/-- The kinds of checks. -/
inductive CheckKind where
  /-- A reputation list of client addresses. -/
  | dnsbl
  /-- A reputation list of domains. -/
  | rhsbl
  /-- The policy that the domain of the sender publishes. -/
  | spf
  /-- A list of values in the configuration. -/
  | str
  /-- A regular expression. -/
  | pcre
  /-- A file of values. -/
  | hash
deriving DecidableEq, Repr

namespace CheckKind

/-- Every kind, in the order in which they are listed. -/
def all : List CheckKind := [dnsbl, rhsbl, spf, str, pcre, hash]

/-- The word for a kind, in configurations and messages. -/
def name : CheckKind → String
  | dnsbl => "dnsbl"
  | rhsbl => "rhsbl"
  | spf => "spf"
  | str => "str"
  | pcre => "pcre"
  | hash => "hash"

/-- The kind that a word stands for. -/
def ofName? (s : String) : Option CheckKind := all.find? (·.name == s)

/-- Whether checks of the kind work in the background. -/
def isBackground : CheckKind → Bool
  | dnsbl | rhsbl | spf => true
  | str | pcre | hash => false

theorem ofName?_name (k : CheckKind) : ofName? k.name = some k := by
  cases k <;> rfl

end CheckKind
end MailPolicy
