/-
Where the service listens.

The configured text is an address and the number of a service, `192.0.2.1:10040` or `[2001:db8::1]:10040`, or
the name of a host and the number.  The number stands after the last colon.

* `BindAddress.parse?` reads an address with its number;
* `BindAddress.resolve` gives the address that the service listens at, or says why it cannot listen;
* `BindError.message` is the whole message.
-/
import MailPolicy.Network.AddressText

namespace MailPolicy

/-- An address and the number of a service there. -/
structure BindAddress where
  address : IpAddress
  service : Nat
deriving DecidableEq, Repr

/-- Why the service cannot listen. -/
inductive BindError where
  /-- There is no colon and so no number. -/
  | noService
  /-- What stands after the last colon is no number of a service. -/
  | badService
  /-- No address is known for the name of the host. -/
  | unknownHost
  /-- The address is not one of the host's own. -/
  | foreignAddress
deriving DecidableEq, Repr

namespace BindError

/-- What is wrong. -/
def detail : BindError → String
  | noService => "invalid socket address"
  | badService => "invalid port value"
  | unknownHost => "failed to lookup address information: Temporary failure in name resolution"
  | foreignAddress => "Cannot assign requested address (os error 99)"

/-- The whole message about a configured text. -/
def message (configured : Text) (e : BindError) : String :=
  "failed to bind " ++ String.ofList configured ++ ": " ++ e.detail

end BindError

/-- The address of a host by its name, without asking anyone. -/
def ownAddress? (host : Text) : Option IpAddress :=
  if host = "localhost".toList then some (.v4 Ipv4.localhost) else IpAddress.parse? host

/-- Whether a host can listen at an address: it is a loopback address, or stands for all addresses. -/
def IpAddress.isOwn : IpAddress → Bool
  | v4 a => a.octets.head? == some 127 || a == 0
  | v6 a => a == Ipv6.localhost || a == 0

namespace BindAddress

open AddressStyle Text

/-- Numbers of services are below this one. -/
def serviceLimit : Nat := 0x10000

/-- Reads a colon and the number of a service. -/
def service? (s : Text) : Option (Nat × Text) := do
  let s ← expect? ':' s
  number? 10 s.length serviceLimit true s

/-- Reads the scope of an address, if there is one. -/
def skipScope? (s : Text) : Option Text :=
  match s with
  | '%' :: s => (number? 10 s.length 0x100000000 true s).map (·.2)
  | s => some s

/-- Reads an address of the newer family in brackets, and the number of a service. -/
def bracketed? (s : Text) : Option (BindAddress × Text) := do
  let s ← expect? '[' s
  let (a, s) ← host.ipv6? s
  let s ← skipScope? s
  let s ← expect? ']' s
  let (service, s) ← service? s
  return (⟨.v6 a, service⟩, s)

/-- Reads four numbers and the number of a service. -/
def dotted? (s : Text) : Option (BindAddress × Text) := do
  let (a, s) ← host.ipv4? s
  let (service, s) ← service? s
  return (⟨.v4 a, service⟩, s)

/-- Reads a whole text as an address with the number of a service. -/
def parse? (s : Text) : Option BindAddress := (whole? (dotted? s)).or (whole? (bracketed? s))

/-- Reads a whole text as the number of a service; a plus sign may stand before it. -/
def wholeService? (s : Text) : Option Nat :=
  let digits := match s with
    | '+' :: rest => rest
    | s => s
  whole? (number? 10 digits.length serviceLimit true digits)

/-- The address and the number that a text stands for, be it by the name of a host. -/
def named (s : Text) : Except BindError BindAddress :=
  match parse? s with
  | some a => .ok a
  | none =>
    match splitLast (· == ':') s with
    | none => .error .noService
    | some (name, number) =>
      match wholeService? number with
      | none => .error .badService
      | some service =>
        match ownAddress? name with
        | none => .error .unknownHost
        | some address => .ok ⟨address, service⟩

/-- Where the service listens for a configured text. -/
def resolve (s : Text) : Except BindError BindAddress :=
  match named s with
  | .error e => .error e
  | .ok a => if a.address.isOwn then .ok a else .error .foreignAddress

end BindAddress
end MailPolicy
