/-
Reputation lists in the domain name system.

A list of addresses is asked for the reversed address of the client under its zone, a list of domains for a
domain from the request.  A name that is found answers with addresses, which a weight table weighs.

* `reversedIpv4`, `reversedIpv6` write an address backwards, octet by octet or nibble by nibble; an IPv6
  address that stands for an IPv4 address is asked for as that;
* `BlockTarget.query?` is the name to ask for, if the request has what it takes;
* `BlockList.make` builds the check, and `BlockList.weight?` weighs a list of answers.
-/
import MailPolicy.Check.WeightTable

namespace MailPolicy

/-- The octets of an address from last to first. -/
def reversedIpv4 (a : Ipv4) : Text := List.intercalate ['.'] (a.octets.reverse.map Text.decimal)

/-- The nibbles of an address from last to first. -/
def reversedIpv6 (a : Ipv6) : Text := List.intercalate ['.'] (a.nibbles.reverse.map (Nat.toDigits 16))

/-- An address from its last part to its first. -/
def IpAddress.reversed : IpAddress → Text
  | .v4 a => reversedIpv4 a
  | .v6 a =>
    match a.mapped? with
    | some mapped => reversedIpv4 mapped
    | none => reversedIpv6 a

/-- What of a request a list is asked for. -/
inductive BlockTarget where
  | address
  | domain (field : Field)
deriving DecidableEq, Repr

namespace BlockTarget

/-- Whether a character is a dot. -/
def isDot (c : Char) : Bool := c == '.'

/-- The domain in a value: its part after the last at sign, in lower case.  Dots at the ends of the value do
not count; there is none if nothing is left or a blank is in it. -/
def domainIn? (value : Text) : Option Text :=
  let bare := Text.lowerAscii (Text.dropEnds isDot (Text.trim value))
  let domain :=
    match Text.splitLast (· == '@') bare with
    | some (_, after) => after
    | none => bare
  if domain.isEmpty || domain.any Text.isBlank then none else some domain

/-- What stands before the zone in a query. -/
def key? (t : BlockTarget) (r : Request) : Option Text :=
  match t with
  | address => r.clientAddress?.map IpAddress.reversed
  | domain field => (r.field? field).bind domainIn?

/-- The name to ask for.  The dot at its end makes it absolute. -/
def query? (t : BlockTarget) (zone : Text) (r : Request) : Option Text :=
  (t.key? r).map fun key => key ++ '.' :: Text.dropEnds isDot zone ++ ['.']

end BlockTarget

/-- A reputation list. -/
structure BlockList where
  name : Text
  zone : Text
  target : BlockTarget
  table : WeightTable Float

namespace BlockList

/-- The kind of the check. -/
def kind (c : BlockList) : CheckKind :=
  match c.target with
  | .address => .dnsbl
  | .domain _ => .rhsbl

/-- The form of a zone: without blanks and dots at its ends, in lower case. -/
def zoneOf (text : Text) : Text :=
  Text.lowerAscii (Text.dropEnds BlockTarget.isDot (Text.trim text))

/-- What a list of addresses is asked for, which is not open to choice. -/
def addressTarget (field : Option Field) : Except Unusable BlockTarget :=
  match field with
  | none => .ok .address
  | some f => if f = .clientAddress then .ok .address else .error .addressListField

/-- What a list of domains is asked for, by default the domain of the sender. -/
def domainTarget (field : Option Field) : Except Unusable BlockTarget :=
  let field := field.getD .senderDomain
  if field = .clientAddress then .error .domainListField else .ok (.domain field)

/-- The check for a target. -/
def build (target : BlockTarget) (s : BlockListSettings) : Except Unusable BlockList := do
  let zone := zoneOf s.zone
  if zone.isEmpty || zone.any Text.isBlank then throw .badZone
  let table ← WeightTable.make s.weights s.weight
  return { name := s.name, zone := zone, target := target, table := table }

/-- The check of the given settings; `wanted` tells what it is asked for. -/
def make (wanted : Option Field → Except Unusable BlockTarget) (s : BlockListSettings) :
    Except CheckError BlockList :=
  match wanted s.field with
  | .error reason => .error (.unusable s.name reason)
  | .ok target =>
    match build target s with
    | .error reason => .error (.unusable s.name reason)
    | .ok c => .ok c

/-- The name to ask for. -/
def query? (c : BlockList) (r : Request) : Option Text := c.target.query? c.zone r

/-- The range of what the check adds. -/
def bounds (c : BlockList) : Bounds Float := c.table.bounds

end BlockList
end MailPolicy
