/-
Regular expressions.

An expression matches a stretch of a text; a look matches the empty stretch where the characters on either
side allow it.  Options and cases are settled while an expression is read, so nothing but sets of characters
is left of them here.

* `Pattern.repeated` is the repetition, cut down where the expression matches only empty stretches;
* `Look.holds` says what a look wants on either side.
-/
import MailPolicy.Pattern.NamedClass

namespace MailPolicy

/-- The tests of a place between characters of words and others. -/
inductive WordEdge where
  /-- On one side only. -/
  | boundary
  /-- On both sides or on neither. -/
  | inside
  /-- After it, and not before. -/
  | start
  /-- Before it, and not after. -/
  | stop
  /-- Not before. -/
  | startHalf
  /-- Not after. -/
  | stopHalf
deriving DecidableEq, Repr

/-- The tests of a place in a text. -/
inductive Look where
  | textStart
  | textEnd
  | lineStart
  | lineEnd
  /-- The start of a line that a carriage return, a line feed or both end. -/
  | anyLineStart
  /-- The end of a line that a carriage return, a line feed or both end. -/
  | anyLineEnd
  | word (edge : WordEdge) (unicode : Bool)
deriving DecidableEq, Repr

/-- A regular expression. -/
inductive Pattern where
  | empty
  | chars (set : Pattern.CharSet)
  | look (l : Look)
  | concat (p q : Pattern)
  | alt (p q : Pattern)
  /-- At least `min` times and, if there is a limit, at most `max` times. -/
  | rep (p : Pattern) (min : Nat) (max : Option Nat)
  | group (p : Pattern)
deriving Repr

namespace Pattern

/-- Whether the expression matches only empty stretches. -/
def isZeroWidth : Pattern → Bool
  | empty => true
  | chars _ => false
  | look _ => true
  | concat p q => p.isZeroWidth && q.isZeroWidth
  | alt p q => p.isZeroWidth && q.isZeroWidth
  | rep p _ max => p.isZeroWidth || max == some 0
  | group p => p.isZeroWidth

/-- The repetition of an expression.  Matching nothing more than once is no more than matching it once. -/
def repeated (p : Pattern) (min : Nat) (max : Option Nat) : Pattern :=
  let (min, max) :=
    if p.isZeroWidth then (Nat.min min 1, some (Nat.min (max.getD 1) 1)) else (min, max)
  match min, max with
  | 0, some 0 => empty
  | 1, some 1 => p
  | _, _ => rep p min max

/-- Expressions one after the other. -/
def sequence : List Pattern → Pattern
  | [] => empty
  | [p] => p
  | p :: rest => concat p (sequence rest)

/-- One expression or another. -/
def choice : List Pattern → Pattern
  | [] => empty
  | [p] => p
  | p :: rest => alt p (choice rest)

end Pattern

namespace Look

/-- The look-up table of the characters of words. -/
def wordTable : Text.RangeTable := Pattern.wordChars.table

/-- Whether a character, if there is one, belongs to words. -/
def isWord (unicode : Bool) (c : Option Char) : Bool :=
  c.any fun c =>
    if c.toNat < 0x80 then Pattern.asciiWordChars.ranges.any fun r => r.1 ≤ c.toNat && c.toNat ≤ r.2
    else unicode && wordTable.contains c

/-- Whether a test of words holds between characters that belong to words or not. -/
def edgeHolds (before after : Bool) : WordEdge → Bool
  | .boundary => before != after
  | .inside => before == after
  | .start => !before && after
  | .stop => before && !after
  | .startHalf => !before
  | .stopHalf => !after

/-- Whether the test holds between two characters; at an end of the text there is none. -/
def holds (l : Look) (before after : Option Char) : Bool :=
  match l with
  | textStart => before.isNone
  | textEnd => after.isNone
  | lineStart => before.isNone || before == some '\n'
  | lineEnd => after.isNone || after == some '\n'
  | anyLineStart =>
    before.isNone || before == some '\n' || (before == some '\r' && after != some '\n')
  | anyLineEnd =>
    after.isNone || after == some '\r' || (after == some '\n' && before != some '\r')
  | word edge unicode => edgeHolds (isWord unicode before) (isWord unicode after) edge

end Look
end MailPolicy
