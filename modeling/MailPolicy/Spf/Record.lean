/-
Sender policy records.

A record is a text that starts with `v=spf1`; its terms stand between blanks.  A term with an equals sign is
a modifier, of which only `redirect` matters; any other is a directive, a mechanism with a qualifier in
front.  Mechanisms are read in lower case.

* `SpfRecord.isPolicy` says which texts count as records;
* `SpfRecord.parse?` reads one, and refuses it if any directive is malformed.
-/
import MailPolicy.Network.Prefix
import MailPolicy.Spf.Result
import MailPolicy.Text.Blank

namespace MailPolicy

/-- What a directive says of a client that it matches. -/
inductive Qualifier where
  | pass
  | fail
  | softfail
  | neutral
deriving DecidableEq, Repr

namespace Qualifier

/-- The result that a match gives. -/
def result : Qualifier → SpfResult
  | pass => .pass
  | fail => .fail
  | softfail => .softfail
  | neutral => .neutral

/-- The qualifier that a sign stands for. -/
def ofSign? : Char → Option Qualifier
  | '+' => some pass
  | '-' => some fail
  | '~' => some softfail
  | '?' => some neutral
  | _ => none

end Qualifier

/-- A length of at most `most` bits. -/
abbrev PrefixLength (most : Nat) := { n : Nat // n ≤ most }

/-- How many bits of an address in a record count, for each family. -/
structure DualLength where
  v4 : PrefixLength 32 := ⟨32, by decide⟩
  v6 : PrefixLength 128 := ⟨128, by decide⟩
deriving DecidableEq, Repr

/-- What a directive compares the client with. -/
inductive Mechanism where
  /-- Every client. -/
  | all
  /-- The clients that the policy of another domain passes. -/
  | included (domain : Text)
  /-- The addresses of a host, by default the domain itself. -/
  | host (target : Option Text) (lengths : DualLength)
  /-- The addresses of the hosts that take mail for a domain, by default the domain itself. -/
  | mailHosts (target : Option Text) (lengths : DualLength)
  | ip4 (network : Prefix 32)
  | ip6 (network : Prefix 128)
  /-- The name of the client, which is not looked up. -/
  | clientName
  /-- Every client, if a host has an address. -/
  | existing (domain : Text)
deriving DecidableEq

/-- Whether a mechanism counts against the limit of terms that ask the domain name system. -/
def Mechanism.asks : Mechanism → Bool
  | all => false
  | ip4 _ => false
  | ip6 _ => false
  | included _ => true
  | host .. => true
  | mailHosts .. => true
  | clientName => true
  | existing _ => true

/-- A mechanism with its qualifier. -/
structure Directive where
  qualifier : Qualifier
  mechanism : Mechanism
deriving DecidableEq

/-- A policy record. -/
structure SpfRecord where
  directives : List Directive := []
  /-- The domain whose policy holds if no directive matches. -/
  redirect : Option Text := none
deriving DecidableEq

/-- Reads a number of at most eight bits, with a plus sign or without. -/
def octetNumber? (s : Text) : Option Nat :=
  let digits :=
    match s with
    | '+' :: rest => rest
    | _ => s
  if digits.isEmpty then none else (Text.ofDigits 10 digits).filter (· < 256)

/-- Reads a length of at most `most` bits. -/
def PrefixLength.parse? (most : Nat) (s : Text) : Option (PrefixLength most) :=
  (octetNumber? s).bind fun n => if h : n ≤ most then some ⟨n, h⟩ else none

namespace DualLength

/-- A text before its first double slash, and after it. -/
def cut : Text → Text × Option Text
  | '/' :: '/' :: rest => ([], some rest)
  | c :: rest =>
    let (before, after) := cut rest
    (c :: before, after)
  | [] => ([], none)

/-- Reads `/n//m`, of which either part may be missing. -/
def parse? (s : Text) : Option DualLength := do
  let (first, second) := cut s
  let v4 ← match first with
    | [] => pure ({} : DualLength).v4
    | '/' :: n => PrefixLength.parse? 32 n
    | _ => none
  let v6 ← match second with
    | none => pure ({} : DualLength).v6
    | some m => PrefixLength.parse? 128 m
  return { v4 := v4, v6 := v6 }

end DualLength

namespace Mechanism

/-- Reads `:domain/n//m`, of which any part may be missing but the domain must not be empty. -/
def target? (s : Text) : Option (Option Text × DualLength) := do
  let domain := s.takeWhile (· != '/')
  let lengths ← DualLength.parse? (s.dropWhile (· != '/'))
  match domain with
  | [] => return (none, lengths)
  | [':'] => none
  | ':' :: name => return (some name, lengths)
  | _ => return (none, lengths)

/-- A network without a length, with the length of a single address. -/
def withLength (bits : Nat) (s : Text) : Text :=
  if s.contains '/' then s else s ++ '/' :: Text.decimal bits

/-- Reads what follows the name of a mechanism. -/
def ofParts? (name : String) (rest : Text) : Option Mechanism :=
  match name, rest with
  | "all", [] => some all
  | "a", _ => (target? rest).map fun (domain, lengths) => host domain lengths
  | "mx", _ => (target? rest).map fun (domain, lengths) => mailHosts domain lengths
  | "ptr", _ => some clientName
  | "include", ':' :: domain => some (included domain)
  | "exists", ':' :: domain => some (existing domain)
  | "ip4", ':' :: network => (Prefix.parseIpv4? (withLength 32 network)).map ip4
  | "ip6", ':' :: network => (Prefix.parseIpv6? (withLength 128 network)).map ip6
  | _, _ => none

/-- Whether a character ends the name of a mechanism. -/
def endsName (c : Char) : Bool := c == ':' || c == '/'

/-- Reads a mechanism. -/
def parse? (s : Text) : Option Mechanism :=
  let lower := Text.lowerAscii s
  ofParts? (String.ofList (lower.takeWhile (!endsName ·))) (lower.dropWhile (!endsName ·))

end Mechanism

/-- Reads a directive; without a qualifier it passes. -/
def Directive.parse? (term : Text) : Option Directive :=
  match term with
  | [] => none
  | c :: rest =>
    match Qualifier.ofSign? c with
    | some qualifier => (Mechanism.parse? rest).map (⟨qualifier, ·⟩)
    | none => (Mechanism.parse? term).map (⟨.pass, ·⟩)

namespace SpfRecord

/-- How a record starts. -/
def version : Text := "v=spf1".toList

/-- Whether a text counts as a policy record: the version alone, or the version and a space. -/
def isPolicy (s : Text) : Bool := s == version || (Text.stripStart (version ++ [' ']) s).isSome

/-- The record with one more term. -/
def add (r : SpfRecord) (term : Text) : Option SpfRecord :=
  match Text.splitFirst (· == '=') term with
  | some (name, value) =>
    if Text.eqAsciiCase name "redirect".toList then
      if r.redirect.isSome then none else some { r with redirect := some value }
    else some r
  | none => (Directive.parse? term).map fun d => { r with directives := r.directives ++ [d] }

/-- Reads a record. -/
def parse? (s : Text) : Option SpfRecord := do
  let terms ← Text.stripStart version s
  (Text.words terms).foldlM add {}

end SpfRecord
end MailPolicy
