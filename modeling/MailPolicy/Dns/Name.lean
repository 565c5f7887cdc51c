/-
Names of the domain name system.

A name is a list of labels, written with dots between them; a dot at the end changes nothing, and the empty
text is the name without labels.  Case does not matter.

* `Dns.labels?` takes a text apart, unless it is no well-formed name;
* `Dns.isName` says which texts are.
-/
import MailPolicy.Text.Utf8

namespace MailPolicy.Dns

/-- The most octets of a label. -/
def maxLabel : Nat := 63

/-- The most octets of a name in its encoded form, in which a length stands before each label and a zero at
the end. -/
def maxEncoded : Nat := 255

/-- Whether a character is an ASCII letter. -/
def isLetter (c : Char) : Bool := ('a' ≤ c && c ≤ 'z') || ('A' ≤ c && c ≤ 'Z')

/-- Whether a character may stand in a label of a host name. -/
def isHostChar (c : Char) : Bool := isLetter c || Text.isDigit c || c == '-'

/-- Whether a text is a label: not empty and not too long, and either a host label, which does not start with
a hyphen, or one that starts with an underscore and may have more of them. -/
def isLabel (label : Text) : Bool :=
  (Utf8.encode label).length ≤ maxLabel &&
    match label with
    | [] => false
    | '_' :: rest => rest.all fun c => isHostChar c || c == '_'
    | c :: rest => isHostChar c && c != '-' && rest.all isHostChar

/-- The parts between dots. -/
def parts : Text → List Text
  | [] => [[]]
  | c :: rest =>
    match parts rest with
    | [] => [[c]]
    | first :: others => if c = '.' then [] :: first :: others else (c :: first) :: others

/-- A name without the dot at its end, if it has one. -/
def withoutFinalDot (name : Text) : Text := if name.getLast? = some '.' then name.dropLast else name

/-- The labels that a text writes, well formed or not. -/
def rawLabels (name : Text) : List Text :=
  match withoutFinalDot name with
  | [] => []
  | s => parts s

/-- How many octets the encoded form of some labels takes: one before each label, and one at the end. -/
def encodedLength (labels : List Text) : Nat :=
  (labels.flatMap fun label => 0 :: Utf8.encode label).length + 1

/-- Whether a text is a well-formed name. -/
def isName (name : Text) : Bool :=
  (rawLabels name).all isLabel && encodedLength (rawLabels name) ≤ maxEncoded

/-- The labels of a name in lower case, unless the text is no well-formed name. -/
def labels? (name : Text) : Option (List Text) :=
  if isName name then some ((rawLabels name).map Text.lowerAscii) else none

end MailPolicy.Dns
