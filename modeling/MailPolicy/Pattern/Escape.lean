/-
Reading the parts of a regular expression that stand for one character, one class or one test: escapes,
numbers of characters, and the space that an option lets pass unnoticed.

Every reader takes the text from a place on and gives back the rest.
-/
import MailPolicy.Pattern.Options
import MailPolicy.Text.Blank

namespace MailPolicy.Pattern

/-- What stands for one element of an expression. -/
inductive Atom where
  /-- A character, and whether its number was given as two hexadecimal digits. -/
  | char (c : Char) (octet : Bool)
  /-- A class of characters. -/
  | set (s : CharSet)
  /-- A test, or any character: nothing that a class could hold. -/
  | other (p : Pattern)

/-- The rest of a line, its line feed included, dropped. -/
def afterLine (s : Text) : Text := (s.dropWhile (· != '\n')).drop 1

theorem length_afterLine_le (s : Text) : (afterLine s).length ≤ s.length := by
  have h : (s.dropWhile (· != '\n')).length ≤ s.length := (List.dropWhile_suffix _).length_le
  simp only [afterLine, List.length_drop]
  omega

/-- Drops blanks and comments in front of a text, if the option says so. -/
def skipSpace (o : Options) (s : Text) : Text :=
  if !o.ignoreSpace then s
  else
    match s with
    | [] => []
    | c :: rest =>
      if Text.isBlank c then skipSpace o rest
      else if c = '#' then skipSpace o (afterLine rest)
      else c :: rest
termination_by s.length
decreasing_by
  · simp only [List.length_cons]
    omega
  · exact Nat.lt_succ_of_le (length_afterLine_le rest)

/-- Drops the character at hand and what space follows it; there has to be more. -/
def next? (o : Options) (s : Text) : Option Text :=
  match skipSpace o (s.drop 1) with
  | [] => none
  | rest => some rest

/-- Characters that mean something and can be escaped to mean themselves. -/
def isMeta (c : Char) : Bool := "\\.+*?()|[]\x7b\x7d^$#&-~".toList.contains c

/-- Characters that a backslash in front leaves as they are. -/
def isEscapable (c : Char) : Bool :=
  isMeta c || (c.toNat < 0x80 && !c.isAlphanum && c != '<' && c != '>')

/-- The character with a number, if there is one. -/
def charOf? (n : Nat) : Option Char := if n.isValidChar then some (Char.ofNat n) else none

/-- Whether a character is a hexadecimal digit. -/
def isHexDigit (c : Char) : Bool := (Text.digitValue? 16 c).isSome

/-- Reads the given count of hexadecimal digits, the first at hand.  Space may stand between them. -/
def fixedHex? (o : Options) : Nat → Text → Text → Option (Text × Text)
  | 0, digits, s => some (digits, s)
  | count + 1, digits, s =>
    match s with
    | c :: rest =>
      if isHexDigit c then fixedHex? o count (digits ++ [c]) (skipSpace o rest) else none
    | [] => none

/-- Reads hexadecimal digits up to a closing brace, with space between them. -/
def bracedHex? (o : Options) : Nat → Text → Text → Option (Text × Text)
  | 0, _, _ => none
  | fuel + 1, digits, s =>
    match s with
    | [] => none
    | c :: rest =>
      if c = '\x7d' then some (digits, skipSpace o rest)
      else if isHexDigit c then bracedHex? o fuel (digits ++ [c]) (skipSpace o rest)
      else none

/-- How many digits follow the letter of a numbered character. -/
def hexCount : Char → Nat
  | 'x' => 2
  | 'u' => 4
  | _ => 8

/-- Reads a numbered character, its letter at hand. -/
def numbered? (o : Options) (letter : Char) (s : Text) : Option (Atom × Text) := do
  let s ← next? o s
  if s.head? = some '\x7b' then
    let (digits, rest) ← bracedHex? o (s.length + 1) [] (skipSpace o (s.drop 1))
    if digits.isEmpty then none
    else return (.char (← (Text.ofDigits 16 digits).bind charOf?) false, rest)
  else
    let (digits, rest) ← fixedHex? o (hexCount letter) [] s
    return (.char (← (Text.ofDigits 16 digits).bind charOf?) (letter == 'x'), rest)

/-- Reads up to a closing brace, space left out. -/
def bracedName? (o : Options) : Nat → Text → Text → Option (Text × Text)
  | 0, _, _ => none
  | fuel + 1, name, s =>
    match s with
    | [] => none
    | c :: rest =>
      if c = '\x7d' then some (name, rest) else bracedName? o fuel (name ++ [c]) (skipSpace o rest)

/-- Reads a class by property, the letter at hand. -/
def propertyAtom? (o : Options) (negate : Bool) (s : Text) : Option (Atom × Text) := do
  let s ← next? o s
  match s with
  | '\x7b' :: rest =>
    let (name, rest) ← bracedName? o (rest.length + 1) [] (skipSpace o rest)
    return (.set (← o.property? negate name), rest)
  | '\\' :: _ => none
  | c :: rest => return (.set (← o.property? negate [c]), skipSpace o rest)
  | [] => none

/-- The characters of the name of a test. -/
def isEdgeNameChar (c : Char) : Bool := c.isAlpha || c == '-'

/-- Reads the characters of the name of a test, space left out. -/
def edgeName (o : Options) : Nat → Text → Text → Text × Text
  | 0, name, s => (name, s)
  | fuel + 1, name, s =>
    match s with
    | c :: rest => if isEdgeNameChar c then edgeName o fuel (name ++ [c]) (skipSpace o rest) else (name, s)
    | [] => (name, [])

/-- The test with a name. -/
def edgeOf? (name : Text) : Option WordEdge :=
  match String.ofList name with
  | "start" => some .start
  | "end" => some .stop
  | "start-half" => some .startHalf
  | "end-half" => some .stopHalf
  | _ => none

/-- Reads a test by name after its letter.  Braces that do not start with a name are not touched: they
repeat the plain test. -/
def namedEdge? (o : Options) (s : Text) : Option (WordEdge × Text) :=
  if s.head? ≠ some '\x7b' then some (.boundary, s)
  else
    match next? o s with
    | none => none
    | some inner =>
      if !(inner.head?.any isEdgeNameChar) then some (.boundary, s)
      else
        let (name, rest) := edgeName o (inner.length + 1) [] inner
        match rest with
        | '\x7d' :: rest => (edgeOf? name).map (·, rest)
        | _ => none

/-- A test between words as an element. -/
def edgeAtom (o : Options) (e : WordEdge) : Atom := .other (.look (.word e o.unicode))

/-- Reads an escape, the character after the backslash at hand. -/
def escape? (o : Options) (s : Text) : Option (Atom × Text) :=
  match s with
  | [] => none
  | c :: rest =>
    if Text.isDigit c then none
    else if c = 'x' ∨ c = 'u' ∨ c = 'U' then numbered? o c s
    else if c = 'p' ∨ c = 'P' then propertyAtom? o (c == 'P') s
    else if "dswDSW".toList.contains c then (o.shorthand? c).map (.set ·, rest)
    else if isEscapable c then some (.char c false, rest)
    else
      match c with
      | 'a' => some (.char '\x07' false, rest)
      | 'f' => some (.char '\x0c' false, rest)
      | 't' => some (.char '\t' false, rest)
      | 'n' => some (.char '\n' false, rest)
      | 'r' => some (.char '\r' false, rest)
      | 'v' => some (.char '\x0b' false, rest)
      | 'A' => some (.other (.look .textStart), rest)
      | 'z' => some (.other (.look .textEnd), rest)
      | 'b' => (namedEdge? o rest).map fun (e, rest) => (edgeAtom o e, rest)
      | 'B' => some (edgeAtom o .inside, rest)
      | '<' => some (edgeAtom o .start, rest)
      | '>' => some (edgeAtom o .stop, rest)
      | _ => none

/-- Without Unicode a number given by two digits is an octet, which beyond ASCII is part of a character. -/
def isHalfChar (o : Options) (c : Char) (octet : Bool) : Bool := !o.unicode && octet && 0x7F < c.toNat

/-- The expression that an element is. -/
def Atom.pattern? (o : Options) : Atom → Option Pattern
  | char c octet => if isHalfChar o c octet then none else some (o.char c)
  | set s => some (.chars s)
  | other p => some p

end MailPolicy.Pattern
