/-
Checks of all kinds, built from their settings.

What a check is stays the same while the service runs; what it remembers does not.  Its memory is the tracker
of failures of a check in the background, or the keys of a file.

* `Check.build` builds a check and its first memory;
* `Check.bounds` is the range of what it adds.
-/
import MailPolicy.Check.BlockList
import MailPolicy.Check.KeyFile
import MailPolicy.Check.PatternCheck
import MailPolicy.Check.SenderPolicy

namespace MailPolicy

/-- A check. -/
inductive Check where
  | blockList (c : BlockList)
  | senderPolicy (c : SenderPolicy)
  | valueList (c : ValueList)
  | pattern (c : PatternCheck)
  | keyFile (c : KeyCheck)

/-- What a check remembers from one request to the next. -/
inductive Memory where
  | nothing
  | failures (tracker : Tracker)
  | keys (file : KeyFile)

namespace Check

/-- The name of the check. -/
def name : Check → Text
  | blockList c => c.name
  | senderPolicy c => c.name
  | valueList c => c.name
  | pattern c => c.name
  | keyFile c => c.name

/-- The kind of the check. -/
def kind : Check → CheckKind
  | blockList c => c.kind
  | senderPolicy _ => .spf
  | valueList _ => .str
  | pattern _ => .pcre
  | keyFile _ => .hash

/-- The range of what the check adds. -/
def bounds : Check → Bounds Float
  | blockList c => c.bounds
  | senderPolicy c => c.bounds
  | valueList c => c.weights.bounds
  | pattern c => c.weights.bounds
  | keyFile c => c.weights.bounds

/-- A memory without failures, for settings of a check; `backoff` holds unless they have their own. -/
def freshFailures (own : Option BackoffSettings) (backoff : BackoffSettings) : Memory :=
  .failures (.ofSettings (own.getD backoff))

/-- The check with the given settings, at the instant `now` and with the files there are. -/
def build (s : CheckSettings) (backoff : BackoffSettings) (now : Nat) (files : Files) :
    Except CheckError (Check × Memory) :=
  match s with
  | .dnsbl s =>
    (BlockList.make BlockList.addressTarget s).map fun c => (blockList c, freshFailures s.backoff backoff)
  | .rhsbl s =>
    (BlockList.make BlockList.domainTarget s).map fun c => (blockList c, freshFailures s.backoff backoff)
  | .spf s => (SenderPolicy.make s).map fun c => (senderPolicy c, freshFailures s.backoff backoff)
  | .str s => (ValueList.make s).map fun c => (valueList c, .nothing)
  | .pcre s => (PatternCheck.make s).map fun c => (pattern c, .nothing)
  | .hash s => (KeyCheck.make s backoff now (files.at? s.path)).map fun (c, f) => (keyFile c, .keys f)

end Check

namespace Memory

/-- The tracker of the failures of a check, if it has one. -/
def tracker? : Memory → Option Tracker
  | nothing => none
  | failures t => some t
  | keys f => some f.tracker

/-- Whether the check leaves its resource alone at the instant `now`. -/
def omits (m : Memory) (now : Nat) : Bool := m.tracker?.any (·.omits now)

/-- The memory with a failure at the instant `now` counted. -/
def fail (m : Memory) (now : Nat) : Memory :=
  match m with
  | nothing => nothing
  | failures t => .failures (t.record now).1
  | keys f => .keys (f.fail now)

end Memory
end MailPolicy
