/-
Requests: the attributes that a mail server sends, and the fields that checks read.

A request keeps its attributes in the order in which their names first came, the last value of a name
replacing the earlier ones.  A field is an attribute or a part of one: values are trimmed and an empty value
is none, a host name `unknown` is none, and the domain of an address is what follows its last at sign, in
lower case.

* `Request.get?_insert_self`, `Request.get?_insert_of_ne`: what an insertion does to a look-up;
* `Request.field?` reads a field.
-/
import MailPolicy.Network.AddressText
import MailPolicy.Text.Blank
import MailPolicy.Text.Lowercase

namespace MailPolicy

/-- The parts of a request that a check can look at. -/
inductive Field where
  | clientAddress
  | heloName
  | sender
  | senderDomain
  | recipient
  | recipientDomain
  | clientName
  | reverseClientName
deriving DecidableEq, Repr

namespace Field

/-- Every field, in the order in which they are listed. -/
def all : List Field :=
  [clientAddress, heloName, sender, senderDomain, recipient, recipientDomain, clientName,
    reverseClientName]

/-- The name of a field on the wire and in a configuration. -/
def name : Field → String
  | clientAddress => "client_address"
  | heloName => "helo_name"
  | sender => "sender"
  | senderDomain => "sender_domain"
  | recipient => "recipient"
  | recipientDomain => "recipient_domain"
  | clientName => "client_name"
  | reverseClientName => "reverse_client_name"

/-- The field with the given name. -/
def ofName? (s : String) : Option Field := all.find? (·.name == s)

end Field

/-- A request: its attributes, each name once. -/
structure Request where
  attributes : List (Text × Text) := []
deriving DecidableEq, Repr, Inhabited

namespace Request

/-- The request without attributes. -/
def empty : Request := {}

/-- The attributes with `name` set to `value`. -/
def insertInto (name value : Text) : List (Text × Text) → List (Text × Text)
  | [] => [(name, value)]
  | (n, v) :: rest => if n = name then (n, value) :: rest else (n, v) :: insertInto name value rest

/-- Sets an attribute; an earlier value of the name is replaced. -/
def insert (r : Request) (name value : Text) : Request := ⟨insertInto name value r.attributes⟩

/-- The request with the given attributes, set in order. -/
def ofList (l : List (Text × Text)) : Request := l.foldl (fun r (n, v) => r.insert n v) empty

/-- The value of an attribute. -/
def get? (r : Request) (name : Text) : Option Text := r.attributes.lookup name

/-- How many attributes there are. -/
def size (r : Request) : Nat := r.attributes.length

/-- Whether there are no attributes. -/
def isEmpty (r : Request) : Bool := r.attributes.isEmpty

/-! ### Look-up after insertion -/

theorem lookup_insertInto_self (name value : Text) (l : List (Text × Text)) :
    (insertInto name value l).lookup name = some value := by
  induction l with
  | nil => simp [insertInto]
  | cons p rest ih =>
    obtain ⟨n, v⟩ := p
    by_cases h : n = name
    · simp [insertInto, h]
    · have h' : (name == n) = false := by simpa using fun e => h e.symm
      simp [insertInto, h, List.lookup_cons, h', ih]

theorem lookup_insertInto_of_ne {name other : Text} (value : Text) (h : other ≠ name)
    (l : List (Text × Text)) : (insertInto name value l).lookup other = l.lookup other := by
  induction l with
  | nil =>
    have h' : (other == name) = false := by simpa using h
    simp [insertInto, List.lookup_cons, h']
  | cons p rest ih =>
    obtain ⟨n, v⟩ := p
    by_cases hn : n = name
    · have h' : (other == n) = false := by simpa [hn] using h
      simp [insertInto, hn, List.lookup_cons, hn ▸ h']
    · simp only [insertInto, hn, if_false, List.lookup_cons, ih]

@[simp] theorem get?_insert_self (r : Request) (name value : Text) :
    (r.insert name value).get? name = some value :=
  lookup_insertInto_self name value r.attributes

theorem get?_insert_of_ne (r : Request) {name other : Text} (value : Text) (h : other ≠ name) :
    (r.insert name value).get? other = r.get? other :=
  lookup_insertInto_of_ne value h r.attributes

@[simp] theorem get?_empty (name : Text) : empty.get? name = none := rfl

/-! ### Fields -/

/-- A value without the blanks around it; nothing if only blanks are there. -/
def nonEmpty? (v : Option Text) : Option Text := (v.map Text.trim).filter (!·.isEmpty)

/-- An attribute that names a host: absent also when the name could not be found out. -/
def hostName? (r : Request) (name : String) : Option Text :=
  (nonEmpty? (r.get? name.toList)).filter (!Text.eqAsciiCase · "unknown".toList)

/-- The domain of a mail address, in angle brackets or not: what follows the last at sign, in lower case. -/
def domainOf? (address : Text) : Option Text :=
  let bare := Text.dropEnd (· == '>') (address.dropWhile (· == '<'))
  match Text.splitLast (· == '@') bare with
  | some (_, domain) => if domain.isEmpty then none else some (Text.lower domain)
  | none => none

/-- The envelope sender. -/
def sender? (r : Request) : Option Text := nonEmpty? (r.get? "sender".toList)

/-- The envelope recipient. -/
def recipient? (r : Request) : Option Text := nonEmpty? (r.get? "recipient".toList)

/-- The name that the client gave itself. -/
def heloName? (r : Request) : Option Text := r.hostName? "helo_name"

/-- The address of the client, if the attribute is one. -/
def clientAddress? (r : Request) : Option IpAddress :=
  (r.get? "client_address".toList).bind fun v => IpAddress.parse? (Text.trim v)

/-- The value of a field. -/
def field? (r : Request) : Field → Option Text
  | .clientAddress => nonEmpty? (r.get? "client_address".toList)
  | .heloName => r.heloName?
  | .sender => r.sender?
  | .senderDomain => r.sender?.bind domainOf?
  | .recipient => r.recipient?
  | .recipientDomain => r.recipient?.bind domainOf?
  | .clientName => r.hostName? "client_name"
  | .reverseClientName => r.hostName? "reverse_client_name"

end Request
end MailPolicy
