/-
Classes of characters as ascending ranges.

A large class is written as one string: two numbers in base thirty-six for each range, its distance from
the end of the range before it and its length less one.  `RangeTable.read` decodes such a string, and
`RangeTable.contains` looks a character up by halving.
-/
import MailPolicy.Text.Basic

namespace MailPolicy.Text

/-- Ascending ranges of character numbers, both ends included. -/
structure RangeTable where
  /-- First and last number of each range. -/
  ranges : Array (Nat × Nat)

namespace RangeTable

/-- The value of a digit in base thirty-six. -/
def digit36 (c : Char) : Nat :=
  if isDigit c then c.toNat - '0'.toNat else c.toNat - 'a'.toNat + 10

/-- The numbers that a string of blank-separated base thirty-six numerals writes. -/
def numbers (s : String) : List Nat :=
  (s.splitOn " ").map fun w => w.foldl (fun n c => n * 36 + digit36 c) 0

/-- Turns distances and lengths into ranges, `last` being the end of the range before. -/
def place (last : Nat) : List Nat → List (Nat × Nat)
  | gap :: length :: rest =>
    (last + gap, last + gap + length) :: place (last + gap + length) rest
  | _ => []

/-- The table that a string writes. -/
def read (s : String) : RangeTable := ⟨(place 0 (numbers s)).toArray⟩

/-- Halves the ranges from `low` up to but not including `high` until one range or none is left. -/
def search (t : RangeTable) (n low high : Nat) : Bool :=
  if low < high then
    let mid := (low + high) / 2
    match t.ranges[mid]? with
    | none => false
    | some (a, b) =>
      if n < a then search t n low mid
      else if b < n then search t n (mid + 1) high
      else true
  else false
termination_by high - low

/-- Whether the number lies in one of the ranges. -/
def containsNat (t : RangeTable) (n : Nat) : Bool := t.search n 0 t.ranges.size

/-- Whether the character lies in one of the ranges. -/
def contains (t : RangeTable) (c : Char) : Bool := t.containsNat c.toNat

end RangeTable
end MailPolicy.Text
