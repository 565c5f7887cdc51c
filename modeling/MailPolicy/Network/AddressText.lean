/-
Reading addresses.

A number is a run of digits, taken whole.  An IPv4 address is four decimal numbers below 256.  An IPv6
address is eight hexadecimal groups of at most four digits; the last two may be written as an IPv4 address,
and one `::` may stand for a run of zero groups.  Two styles differ in two points:

* `AddressStyle.host` for a single address: no superfluous zero in a decimal number, and `::` stands for at
  least one group;
* `AddressStyle.network` for the address of a network: leading zeros are fine, and `::` may stand for none.

`IpAddress.parse?` reads a whole text in the first style.
-/
import MailPolicy.Network.Address

namespace MailPolicy

/-- What a reader of addresses lets pass. -/
structure AddressStyle where
  /-- Decimal numbers may start with a zero that says nothing. -/
  leadingZeros : Bool
  /-- The fewest groups that `::` stands for. -/
  minGap : Nat

namespace AddressStyle

/-- The style of a single address. -/
def host : AddressStyle := ⟨false, 1⟩

/-- The style of the address of a network. -/
def network : AddressStyle := ⟨true, 0⟩

end AddressStyle

namespace Text

/-- Reads a run of one to `most` digits whose value is below `bound`. -/
def number? (base most bound : Nat) (leadingZeros : Bool) (s : Text) : Option (Nat × Text) :=
  let digits := s.takeWhile fun c => (digitValue? base c).isSome
  let rest := s.drop digits.length
  if digits.isEmpty || most < digits.length then none
  else if !leadingZeros && digits.head? == some '0' && 1 < digits.length then none
  else
    match ofDigits base digits with
    | some n => if n < bound then some (n, rest) else none
    | none => none

/-- Reads one given character. -/
def expect? (c : Char) : Text → Option Text
  | d :: s => if d = c then some s else none
  | [] => none

end Text

namespace AddressStyle

open Text

/-- Reads `count` decimal numbers with dots between them. -/
def octets? (style : AddressStyle) : Nat → Text → Option (List Nat × Text)
  | 0, s => some ([], s)
  | count + 1, s => do
    let (n, s) ← number? 10 3 256 style.leadingZeros s
    if count = 0 then return ([n], s)
    let (ns, s) ← octets? style count (← expect? '.' s)
    return (n :: ns, s)

/-- Reads an IPv4 address. -/
def ipv4? (style : AddressStyle) (s : Text) : Option (Ipv4 × Text) :=
  (style.octets? 4 s).map fun (ds, s) => (Ipv4.ofOctets ds, s)

/-- Reads up to `left` groups, each but the first after a colon, and says whether an IPv4 address made the
last two of them. -/
def groups (style : AddressStyle) : Nat → Bool → Text → List Nat × Bool × Text
  | 0, _, s => ([], false, s)
  | left + 1, first, s =>
    let start := if first then some s else expect? ':' s
    match if 0 < left then start.bind style.ipv4? else none with
    | some (a, rest) => ([a.toNat / 65536, a.toNat % 65536], true, rest)
    | none =>
      match start.bind (number? 16 4 65536 true) with
      | some (g, rest) =>
        let (gs, embedded, rest) := groups style left false rest
        (g :: gs, embedded, rest)
      | none => ([], false, s)

/-- Reads an IPv6 address. -/
def ipv6? (style : AddressStyle) (s : Text) : Option (Ipv6 × Text) :=
  let (front, embedded, rest) := style.groups 8 true s
  if front.length = 8 then some (Ipv6.ofGroups front, rest)
  else if embedded then none
  else do
    let rest ← expect? ':' (← expect? ':' rest)
    let (back, _, rest) := style.groups (8 - (front.length + style.minGap)) true rest
    let zeros := List.replicate (8 - (front.length + back.length)) 0
    return (Ipv6.ofGroups (front ++ zeros ++ back), rest)

/-- What a reader reads, if nothing is left over. -/
def whole? {α : Type} : Option (α × Text) → Option α
  | some (a, []) => some a
  | _ => none

end AddressStyle

/-- Reads a whole text as an address of either family. -/
def IpAddress.parse? (s : Text) : Option IpAddress :=
  match AddressStyle.host.ipv4? s with
  | some (a, rest) => if rest.isEmpty then some (.v4 a) else none
  | none => (AddressStyle.whole? (AddressStyle.host.ipv6? s)).map .v6

end MailPolicy
