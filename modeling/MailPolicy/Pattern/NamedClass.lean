/-
Character classes with a name.

* `digitChars`, `spaceChars`, `wordChars` are the classes of `\d`, `\s` and `\w`;
* `asciiClass?` finds the classes that a bracket names between colons;
* `propertyClass?` finds the classes of `\p`: categories, scripts and properties, by one name or by the name
  of an attribute and a value.  Names are compared in small letters without blanks, hyphens, underscores
  and a leading `is`.
-/
import MailPolicy.Pattern.PropertyTable
import MailPolicy.Pattern.ScriptTable

namespace MailPolicy.Pattern

/-- The decimal digits of all scripts. -/
def digitChars : CharSet := ofCategory "Nd"

/-- The ASCII digits. -/
def asciiDigitChars : CharSet := .ofRange '0' '9'

/-- The row of a property. -/
def propertyRow? (name : String) : Option PropertyRow := propertyRows.find? (·.names.contains name)

/-- The characters with a property. -/
def property? (name : String) : Option CharSet := (propertyRow? name).map PropertyRow.chars

/-- The white-space characters. -/
def spaceChars : CharSet := (property? "whitespace").getD .empty

/-- The ASCII white-space characters. -/
def asciiSpaceChars : CharSet := ⟨[(0x09, 0x0D), (0x20, 0x20)]⟩

/-- The characters of words: letters, marks, digits, connectors and joiners. -/
def wordChars : CharSet :=
  [property? "alphabetic", some (ofCategory "M"), some digitChars, some (ofCategory "Pc"),
    property? "joincontrol"].foldl (fun s t => s.union (t.getD .empty)) .empty

/-- The ASCII characters of words. -/
def asciiWordChars : CharSet := ⟨[(0x30, 0x39), (0x41, 0x5A), (0x5F, 0x5F), (0x61, 0x7A)]⟩

/-- The class that a bracket names between colons. -/
def asciiClass? (name : String) : Option CharSet :=
  match name with
  | "alnum" => some ⟨[(0x30, 0x39), (0x41, 0x5A), (0x61, 0x7A)]⟩
  | "alpha" => some ⟨[(0x41, 0x5A), (0x61, 0x7A)]⟩
  | "ascii" => some ⟨[(0x00, 0x7F)]⟩
  | "blank" => some ⟨[(0x09, 0x09), (0x20, 0x20)]⟩
  | "cntrl" => some ⟨[(0x00, 0x1F), (0x7F, 0x7F)]⟩
  | "digit" => some asciiDigitChars
  | "graph" => some ⟨[(0x21, 0x7E)]⟩
  | "lower" => some ⟨[(0x61, 0x7A)]⟩
  | "print" => some ⟨[(0x20, 0x7E)]⟩
  | "punct" => some ⟨[(0x21, 0x2F), (0x3A, 0x40), (0x5B, 0x60), (0x7B, 0x7E)]⟩
  | "space" => some asciiSpaceChars
  | "upper" => some ⟨[(0x41, 0x5A)]⟩
  | "word" => some asciiWordChars
  | "xdigit" => some ⟨[(0x30, 0x39), (0x41, 0x46), (0x61, 0x66)]⟩
  | _ => none

/-- The form in which names are compared. -/
def looseName (name : Text) : String :=
  let isPart (c : Char) : Bool := c.toNat < 0x80 && c != ' ' && c != '_' && c != '-'
  match Text.lowerAscii name with
  | 'i' :: 's' :: rest =>
    let rest := rest.filter isPart
    if rest = ['c'] then "isc" else String.ofList rest
  | small => String.ofList (small.filter isPart)

/-- The code of the category with a name. -/
def categoryCode? (name : String) : Option String :=
  (categoryNames.find? fun (code, names) =>
    String.ofList (Text.lowerAscii code.toList) == name || names.contains name).map (·.1)

/-- The characters of a category or of the three classes that go with the categories. -/
def categoryClass? (name : String) : Option CharSet :=
  match name with
  | "any" => some ⟨[(0, CharSet.lastNumber)]⟩
  | "ascii" => some ⟨[(0, 0x7F)]⟩
  | "assigned" => some (ofCategory "Cn").compl
  | _ => (categoryCode? name).map ofCategory

/-- The characters of a script. -/
def scriptClass? (name : String) : Option CharSet :=
  (scriptNames.find? fun (code, names) =>
    String.ofList (Text.lowerAscii code.toList) == name || names.contains name).map (ofScript ·.1)

/-- Two-letter names that stand for a category although an attribute has them, too. -/
def categoryFirst : List String := ["cf", "sc", "lc"]

/-- The class with a single name. -/
def simpleClass? (name : Text) : Option CharSet :=
  let name := looseName name
  let named := if categoryFirst.contains name then none else property? name
  named <|> categoryClass? name <|> scriptClass? name

/-- The class of the characters for which an attribute has a value. -/
def valueClass? (of value : Text) : Option CharSet :=
  let value := looseName value
  match looseName of with
  | "gc" | "generalcategory" => categoryClass? value
  | "sc" | "script" | "scx" | "scriptextensions" => scriptClass? value
  | _ => none

/-- Splits a name at the first place where `sep` stands in it. -/
def splitAt? (sep : Text) : Text → Option (Text × Text)
  | [] => none
  | c :: rest =>
    match Text.stripStart sep (c :: rest) with
    | some after => some ([], after)
    | none => (splitAt? sep rest).map fun (a, b) => (c :: a, b)

/-- The class that stands between the braces of `\p`, and whether it is to be negated. -/
def propertyClass? (content : Text) : Option (CharSet × Bool) :=
  match splitAt? ['!', '='] content with
  | some (of, value) => (valueClass? of value).map (·, true)
  | none =>
    match splitAt? [':'] content <|> splitAt? ['='] content with
    | some (of, value) => (valueClass? of value).map (·, false)
    | none => (simpleClass? content).map (·, false)

end MailPolicy.Pattern
