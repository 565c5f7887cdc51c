/-
What the domain name system answers.

A resolver is asked for the records of a kind under a name.  It gives a list, which is empty if there are
none, or nothing at all if the look-up failed.  `Zone.resolver` answers from a table of names, over a link
that is up or down:

* a malformed name fails;
* `localhost` and the names under it have the loopback addresses, the names under `invalid` have nothing, and
  neither is asked for over the link;
* with the link down every other look-up fails.
-/
import MailPolicy.Dns.Name
import MailPolicy.Network.Address

namespace MailPolicy

/-- The kinds of records. -/
inductive RecordKind where
  | txt
  | a
  | aaaa
  | mx
deriving DecidableEq, Repr

/-- The word for a kind of records. -/
def RecordKind.name : RecordKind → String
  | txt => "txt"
  | a => "a"
  | aaaa => "aaaa"
  | mx => "mx"

/-- The kind of records that a word stands for. -/
def RecordKind.ofName? (s : String) : Option RecordKind := [txt, a, aaaa, mx].find? (·.name == s)

/-- The records that a look-up found; nothing if it failed. -/
abbrev DnsAnswer (α : Type) := Option (List α)

/-- What a resolver answers, for each kind of records. -/
structure Resolver where
  txt : Text → DnsAnswer Text
  a : Text → DnsAnswer Ipv4
  aaaa : Text → DnsAnswer Ipv6
  /-- The names of the hosts that take mail. -/
  mx : Text → DnsAnswer Text

/-- A text record: octets in chunks. -/
structure TextRecord where
  chunks : List (List UInt8)
deriving DecidableEq, Repr

namespace TextRecord

/-- The most octets of a chunk. -/
def maxChunk : Nat := 255

/-- Octets cut into chunks. -/
def cut (octets : List UInt8) : List (List UInt8) :=
  if octets.length ≤ maxChunk then [octets]
  else octets.take maxChunk :: cut (octets.drop maxChunk)
termination_by octets.length
decreasing_by simp [maxChunk] at *; omega

/-- The text of a record: each chunk on its own, one after the other. -/
def text (r : TextRecord) : Text := r.chunks.flatMap Utf8.decodeLossy

end TextRecord

/-- How look-ups of a name end. -/
inductive ZoneStatus where
  /-- With the records there are. -/
  | answers
  /-- Without records. -/
  | empty
  /-- In failure. -/
  | fails
deriving DecidableEq, Repr

/-- What is known about a name. -/
structure ZoneEntry where
  txt : List TextRecord := []
  a : List Ipv4 := []
  aaaa : List Ipv6 := []
  mx : List Text := []
  status : ZoneStatus := .answers
  /-- Kinds of records for which look-ups fail. -/
  failing : List RecordKind := []
deriving Repr, Inhabited

/-- What is known, by name. -/
structure Zone where
  entries : List (List Text × ZoneEntry) := []
deriving Repr, Inhabited

/-- Whether name servers can be reached. -/
inductive Link where
  | up
  | down
deriving DecidableEq, Repr

namespace Zone

/-- Where the answer for a name comes from. -/
inductive Source where
  /-- The name is malformed. -/
  | nowhere
  /-- The name is that of the own host. -/
  | ownHost
  /-- The name is known not to exist. -/
  | nothing
  /-- Name servers have to be asked. -/
  | servers (labels : List Text)
deriving DecidableEq, Repr

/-- Where the answer for a name comes from. -/
def source (name : Text) : Source :=
  match Dns.labels? name with
  | none => .nowhere
  | some labels =>
    if labels.getLast? = some "localhost".toList then .ownHost
    else if labels.getLast? = some "invalid".toList then .nothing
    else .servers labels

/-- What name servers say of the records of one kind. -/
def find {α : Type} (z : Zone) (kind : RecordKind) (records : ZoneEntry → List α) (labels : List Text) :
    DnsAnswer α :=
  match z.entries.lookup labels with
  | none => some []
  | some e =>
    if e.status = .fails ∨ kind ∈ e.failing then none
    else if e.status = .empty then some []
    else some (records e)

/-- The answer for the records of one kind under a name. -/
def ask {α : Type} (z : Zone) (link : Link) (kind : RecordKind) (own : List α)
    (records : ZoneEntry → List α) (name : Text) : DnsAnswer α :=
  match source name with
  | .nowhere => none
  | .ownHost => some own
  | .nothing => some []
  | .servers labels =>
    match link with
    | .up => z.find kind records labels
    | .down => none

/-- The resolver that asks name servers with the given table. -/
def resolver (z : Zone) (link : Link) : Resolver where
  txt := z.ask link .txt [] fun e => e.txt.map TextRecord.text
  a := z.ask link .a [Ipv4.localhost] ZoneEntry.a
  aaaa := z.ask link .aaaa [Ipv6.localhost] ZoneEntry.aaaa
  mx := z.ask link .mx [] ZoneEntry.mx

end Zone
end MailPolicy
