/-
Faults: what the service reports when it cannot decide.

Each cause of failure has its own type in the module that it belongs to; a `Fault` is what becomes of it at
the boundary, one of five kinds with a text.  Every kind but a broken configuration ends only the request
at hand.
-/
namespace MailPolicy

/-- The kinds of faults. -/
inductive FaultKind where
  /-- The configuration cannot be used. -/
  | config
  /-- The peer broke the wire format. -/
  | protocol
  /-- A pool refused the work. -/
  | exhausted
  /-- A stage ran past its deadline. -/
  | timeout
  /-- Reading from the peer failed. -/
  | io
deriving DecidableEq, Repr

namespace FaultKind

/-- The code of the kind. -/
def code : FaultKind → String
  | config => "CONFIG_ERROR"
  | protocol => "PROTOCOL_ERROR"
  | exhausted => "EXHAUSTED"
  | timeout => "TIMEOUT"
  | io => "IO_ERROR"

/-- How a message of the kind starts. -/
def label : FaultKind → String
  | config => "Configuration error"
  | protocol => "Protocol error"
  | exhausted => "Resource exhausted"
  | timeout => "Timed out"
  | io => "I/O error"

/-- Whether a fault of the kind ends the request at hand and nothing else. -/
def requestFatal : FaultKind → Bool
  | config => false
  | _ => true

end FaultKind

/-- A fault: its kind and what happened. -/
structure Fault where
  kind : FaultKind
  detail : String
deriving DecidableEq, Repr

/-- The whole message of a fault. -/
def Fault.message (f : Fault) : String := f.kind.label ++ ": " ++ f.detail

end MailPolicy
