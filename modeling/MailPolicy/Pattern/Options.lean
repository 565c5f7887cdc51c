/-
Options of a regular expression, and what a single character, a class or a test means under them.

Case is settled here: a character stands for the set of its cases if case is ignored.  Without the option
for Unicode, classes are ASCII classes, and an expression that could match part of a character is refused.
-/
import MailPolicy.Pattern.Fold
import MailPolicy.Pattern.Syntax

namespace MailPolicy.Pattern

/-- The options that a group can set. -/
structure Options where
  ignoreCase : Bool := false
  multiLine : Bool := false
  dotNewline : Bool := false
  /-- Repetitions are lazy unless marked; this changes where a match ends, not whether there is one. -/
  swapGreed : Bool := false
  unicode : Bool := true
  anyNewline : Bool := false
  ignoreSpace : Bool := false
deriving DecidableEq, Repr

namespace Options

/-- The option with the given letter switched on or off. -/
def set? (o : Options) (letter : Char) (on : Bool) : Option Options :=
  match letter with
  | 'i' => some { o with ignoreCase := on }
  | 'm' => some { o with multiLine := on }
  | 's' => some { o with dotNewline := on }
  | 'U' => some { o with swapGreed := on }
  | 'u' => some { o with unicode := on }
  | 'R' => some { o with anyNewline := on }
  | 'x' => some { o with ignoreSpace := on }
  | _ => none

/-- A set with the cases of its characters, if case is ignored. -/
def caseOf (o : Options) (s : CharSet) : CharSet :=
  if !o.ignoreCase then s else if o.unicode then s.closeCase else s.closeAsciiCase

/-- A set, or its complement.  A complement without Unicode holds parts of characters. -/
def negated? (o : Options) (negate : Bool) (s : CharSet) : Option CharSet :=
  let s := if negate then s.compl.dropSurrogates else s
  if o.unicode || s.isAscii then some s else none

/-- A character by itself. -/
def char (o : Options) (c : Char) : Pattern := .chars (o.caseOf (.single c))

/-- Any character, or any that does not end a line. -/
def dot? (o : Options) : Option Pattern :=
  if !o.unicode then none
  else
    let none' : CharSet :=
      if o.dotNewline then .empty
      else if o.anyNewline then ⟨[(0x0A, 0x0A), (0x0D, 0x0D)]⟩
      else ⟨[(0x0A, 0x0A)]⟩
    some (.chars none'.compl.dropSurrogates)

/-- The start of the text or of a line. -/
def start (o : Options) : Look :=
  if !o.multiLine then .textStart else if o.anyNewline then .anyLineStart else .lineStart

/-- The end of the text or of a line. -/
def stop (o : Options) : Look :=
  if !o.multiLine then .textEnd else if o.anyNewline then .anyLineEnd else .lineEnd

/-- The class of the letters `d`, `s` and `w`, or its complement for the capital. -/
def shorthand? (o : Options) (letter : Char) : Option CharSet :=
  match letter with
  | 'd' => some (if o.unicode then digitChars else asciiDigitChars)
  | 's' => some (if o.unicode then spaceChars else asciiSpaceChars)
  | 'w' => some (if o.unicode then wordChars else asciiWordChars)
  | 'D' => o.negated? true (if o.unicode then digitChars else asciiDigitChars)
  | 'S' => o.negated? true (if o.unicode then spaceChars else asciiSpaceChars)
  | 'W' => o.negated? true (if o.unicode then wordChars else asciiWordChars)
  | _ => none

/-- The class that a property names. -/
def property? (o : Options) (negate : Bool) (content : Text) : Option CharSet :=
  if !o.unicode then none
  else
    match propertyClass? content with
    | some (s, inverse) => o.negated? (negate != inverse) (o.caseOf s)
    | none => none

/-- The class that a bracket names between colons. -/
def asciiClass? (o : Options) (negate : Bool) (name : String) : Option (Option CharSet) :=
  (Pattern.asciiClass? name).map fun s => o.negated? negate (o.caseOf s)

end Options
end MailPolicy.Pattern
