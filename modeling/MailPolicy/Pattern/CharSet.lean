/-
Sets of characters as ascending ranges of their numbers.

* `CharSet.ofRanges` sorts ranges and joins those that meet;
* `union`, `inter`, `diff`, `symmDiff`, `compl` are the operations of a character class;
* `readRuns` and `runsWhere` decode tables that give every character a code.
-/
import MailPolicy.Text.RangeTable

namespace MailPolicy.Pattern

/-- A set of characters: ascending ranges with gaps between them. -/
structure CharSet where
  ranges : List (Nat × Nat)
deriving DecidableEq, Repr

namespace CharSet

/-- The last number of a character. -/
def lastNumber : Nat := 0x10FFFF

/-- The set of no character. -/
def empty : CharSet := ⟨[]⟩

/-- Joins sorted ranges that meet, `a` to `b` being the range at hand. -/
def joinFrom (a b : Nat) : List (Nat × Nat) → List (Nat × Nat)
  | [] => [(a, b)]
  | (c, d) :: rest => if c ≤ b + 1 then joinFrom a (max b d) rest else (a, b) :: joinFrom c d rest

/-- Joins sorted ranges that meet. -/
def join : List (Nat × Nat) → List (Nat × Nat)
  | [] => []
  | (a, b) :: rest => joinFrom a b rest

/-- The set of all characters in some range. -/
def ofRanges (rs : List (Nat × Nat)) : CharSet := ⟨join (rs.mergeSort fun r s => r.1 ≤ s.1)⟩

/-- The characters from one to another. -/
def ofRange (a b : Char) : CharSet := ⟨[(a.toNat, b.toNat)]⟩

/-- The set of one character. -/
def single (c : Char) : CharSet := ofRange c c

/-- The set that a table of ranges describes. -/
def ofTable (t : Text.RangeTable) : CharSet := ⟨t.ranges.toList⟩

/-- The table for look-ups in a set. -/
def table (s : CharSet) : Text.RangeTable := ⟨s.ranges.toArray⟩

/-- The characters in one set or the other. -/
def union (s t : CharSet) : CharSet := ofRanges (s.ranges ++ t.ranges)

/-- The numbers from `start` on outside of sorted ranges. -/
def gaps (start : Nat) : List (Nat × Nat) → List (Nat × Nat)
  | [] => if start ≤ lastNumber then [(start, lastNumber)] else []
  | (a, b) :: rest => if start < a then (start, a - 1) :: gaps (b + 1) rest else gaps (b + 1) rest

/-- The characters not in a set. -/
def compl (s : CharSet) : CharSet := ⟨gaps 0 s.ranges⟩

/-- The characters in both sets. -/
def inter (s t : CharSet) : CharSet := (s.compl.union t.compl).compl

/-- The characters in the first set alone. -/
def diff (s t : CharSet) : CharSet := s.inter t.compl

/-- The characters in one set but not in both. -/
def symmDiff (s t : CharSet) : CharSet := (s.diff t).union (t.diff s)

/-- Whether all characters of a set are ASCII. -/
def isAscii (s : CharSet) : Bool := s.ranges.all fun r => r.2 < 0x80

/-- The set without the numbers of surrogates, which are no characters. -/
def dropSurrogates (s : CharSet) : CharSet := s.diff ⟨[(0xD800, 0xDFFF)]⟩

end CharSet

/-- A run: its length in base thirty-six and, from the first capital on, its code. -/
def readRun (word : String) : Nat × String :=
  let cs := word.toList
  let digits := cs.takeWhile fun c => !c.isUpper
  (digits.foldl (fun n c => n * 36 + Text.RangeTable.digit36 c) 0, String.ofList (cs.drop digits.length))

/-- Reads a table of runs. -/
def readRuns (s : String) : List (Nat × String) := (s.splitOn " ").map readRun

/-- The ranges of the runs from number `start` on whose code passes a test. -/
def rangesWhere (start : Nat) (p : String → Bool) : List (Nat × String) → List (Nat × Nat)
  | [] => []
  | (length, code) :: rest =>
    if p code then (start, start + length - 1) :: rangesWhere (start + length) p rest
    else rangesWhere (start + length) p rest

/-- The characters whose code passes a test. -/
def runsWhere (runs : List (Nat × String)) (p : String → Bool) : CharSet :=
  ⟨CharSet.join (rangesWhere 0 p runs)⟩

end MailPolicy.Pattern
