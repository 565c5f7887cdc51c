/-
Reading a TOML document.

A document is a sequence of lines, each of which gives a value to a key or opens a table.  Arrays and tables
in braces nest, up to a limit.

* `Toml.value` reads a value;
* `Toml.read?` reads a document and gives the entries of its outermost table.
-/
import MailPolicy.Toml.Scalar

namespace MailPolicy.Toml

/-- How deeply arrays and tables in braces may nest, and how long a dotted key may be. -/
def maxDepth : Nat := 79

/-! ### Blanks and comments -/

/-- What follows spaces and tabs. -/
def skipSpaces (s : Text) : Text := s.dropWhile isSpace

/-- What follows a comment, if the text starts with one. -/
def skipComment : Text → Text
  | '#' :: s => s.dropWhile isPlain
  | s => s

/-- What follows blanks, ends of lines and comments; the flag says whether the text starts in a comment. -/
def skipBlanks (inComment : Bool) : Text → Text
  | '\n' :: s => skipBlanks false s
  | '\r' :: '\n' :: s => skipBlanks false s
  | '#' :: s => skipBlanks true s
  | c :: s =>
    if inComment then if isPlain c then skipBlanks true s else c :: s
    else if isSpace c then skipBlanks false s
    else c :: s
  | [] => []

/-- Reads the rest of a line, which must hold nothing more than a comment. -/
def endLine? (s : Text) : Option Text :=
  match skipComment (skipSpaces s) with
  | [] => some []
  | t => (lineBreak? t).map (·.1)

/-! ### Keys -/

/-- Whether a character may stand in a key without quotes. -/
def isBare (c : Char) : Bool :=
  ('a' ≤ c && c ≤ 'z') || ('A' ≤ c && c ≤ 'Z') || Text.isDigit c || c == '-' || c == '_'

/-- Reads one part of a key. -/
def keyPart (s : Text) : Option (Text × Text) :=
  match s with
  | '"' :: _ => singleLine s
  | '\'' :: _ => singleLine s
  | c :: _ => if isBare c then some (s.takeWhile isBare, s.dropWhile isBare) else none
  | [] => none

/-- Reads the parts of a key that `limit` still lets through. -/
def keyParts : Nat → Text → Option (List Text × Text)
  | 0, _ => none
  | limit + 1, s => do
    let (part, r) ← keyPart (skipSpaces s)
    match skipSpaces r with
    | '.' :: r =>
      let (parts, r) ← keyParts limit r
      return (part :: parts, r)
    | r => return ([part], r)

/-- Reads a dotted key and the blanks around it. -/
def key (s : Text) : Option (Key × Text) := do
  let (parts, r) ← keyParts maxDepth s
  let last ← parts.getLast?
  return (⟨parts.dropLast, last⟩, r)

/-! ### Values -/

/-- Reads the elements of an array from after its bracket.  An element must take something off the text. -/
def elements (element : Text → Option (Value × Text)) (s : Text) : Option (List Value × Text) :=
  match skipBlanks false s with
  | ']' :: r => some ([], r)
  | t =>
    match element t with
    | none => none
    | some (v, r) =>
      match skipBlanks false r with
      | ']' :: r => some ([v], r)
      | ',' :: r =>
        if r.length < s.length then (elements element r).map fun (vs, r) => (v :: vs, r) else none
      | _ => none
termination_by s.length

/-- Reads the assignments of a table in braces, from where the first or the next must stand. -/
def pairs (element : Text → Option (Value × Text)) (s : Text) : Option (List (Key × Value) × Text) :=
  match key s with
  | none => none
  | some (k, r) =>
    match r with
    | '=' :: r =>
      match element (skipSpaces r) with
      | none => none
      | some (v, r) =>
        match skipSpaces r with
        | '}' :: r => some ([(k, v)], r)
        | ',' :: r =>
          if r.length < s.length then (pairs element r).map fun (ps, r) => ((k, v) :: ps, r) else none
        | _ => none
    | _ => none
termination_by s.length

/-- Reads a value within which arrays and tables in braces nest up to the given depth. -/
def value : Nat → Text → Option (Value × Text)
  | 0, s => scalar s
  | depth + 1, s =>
    match s with
    | '[' :: r => (elements (value depth) r).map fun (vs, r) => (.array false vs, r)
    | '{' :: r =>
      match skipSpaces r with
      | '}' :: r => some (.table .inline [], r)
      | r => do
        let (ps, r) ← pairs (value depth) r
        let v ← Value.inlineTable? ps
        return (v, r)
    | _ => scalar s

/-! ### Documents -/

/-- Reads a line that is neither blank nor a comment, up to the end of its statement. -/
def statement (s : Text) : Option (Statement × Text) :=
  match s with
  | '[' :: '[' :: r => do
    match ← key r with
    | (k, ']' :: ']' :: r) => return (.openElement k, r)
    | _ => none
  | '[' :: r => do
    match ← key r with
    | (k, ']' :: r) => return (.openTable k, r)
    | _ => none
  | _ => do
    match ← key s with
    | (k, '=' :: r) =>
      let (v, r) ← value maxDepth (skipSpaces r)
      return (.assign k v, r)
    | _ => none

/-- Reads the lines of a document. -/
def statements (s : Text) : Option (List Statement) :=
  match skipSpaces s with
  | [] => some []
  | c :: t =>
    match lineBreak? (c :: t) with
    | some ⟨r, _⟩ => if r.length < s.length then statements r else none
    | none =>
      if c = '#' then
        match endLine? (c :: t) with
        | some r => if r.length < s.length then statements r else none
        | none => none
      else
        match statement (c :: t) with
        | none => none
        | some (line, r) =>
          match endLine? r with
          | none => none
          | some r => if r.length < s.length then (statements r).map (line :: ·) else none
termination_by s.length

/-- A text without the mark that may stand at its start. -/
def dropMark (s : Text) : Text :=
  match s with
  | '\uFEFF' :: r => r
  | s => s

/-- The entries of the outermost table of a document, unless the text is no document. -/
def read? (s : Text) : Option Entries :=
  ((statements (dropMark s)).bind Draft.ofStatements).map (·.root)

end MailPolicy.Toml
