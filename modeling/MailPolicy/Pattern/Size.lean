/-
The size of the automaton of an expression.

An expression is refused if the automaton that walks it backwards over UTF-8 octets would take more than ten
mebibytes.  A state takes thirty-two octets, and four or eight more for each of several ways on.  A set of
characters beyond ASCII takes a state for every range of octets, those that begin alike shared.

* `octetRanges` splits a range of characters into ranges of octets;
* `Pattern.octetSize` is the size of an expression;
* `Pattern.isTooLarge` says whether it is refused.
-/
import MailPolicy.Pattern.Syntax
import MailPolicy.Text.Utf8

namespace MailPolicy.Pattern

/-- The greatest numbers of characters with one to four octets. -/
def widthLimits : List Nat := [0x7F, 0x7FF, 0xFFFF, 0x10FFFF]

/-- The part of a range up to a limit and the part above it. -/
def cutAt (limit : Nat) (r : Nat × Nat) : List (Nat × Nat) :=
  if r.1 ≤ limit ∧ limit < r.2 then [(r.1, limit), (limit + 1, r.2)] else [r]

/-- Cuts off the part of a range in front of the first whole block of numbers. -/
def cutFront (block : Nat) (r : Nat × Nat) : List (Nat × Nat) :=
  let edge := (r.1 / block + 1) * block
  if r.1 % block ≠ 0 ∧ edge ≤ r.2 then [(r.1, edge - 1), (edge, r.2)] else [r]

/-- Cuts off the part of a range behind the last whole block of numbers. -/
def cutBack (block : Nat) (r : Nat × Nat) : List (Nat × Nat) :=
  let edge := r.2 / block * block
  if r.2 % block ≠ block - 1 ∧ r.1 < edge then [(r.1, edge - 1), (edge, r.2)] else [r]

/-- Splits a range into ranges that lie in one block of numbers or consist of whole blocks. -/
def cutBlocks (block : Nat) (r : Nat × Nat) : List (Nat × Nat) :=
  (cutFront block r).flatMap (cutBack block)

/-- The ranges of the octets of a range of characters that differ in whole blocks. -/
def octetsOf (r : Nat × Nat) : List (UInt8 × UInt8) :=
  (String.utf8EncodeChar (Char.ofNat r.1)).zip (String.utf8EncodeChar (Char.ofNat r.2))

/-- Splits a range of characters into sequences of ranges of octets. -/
def octetRanges (r : Nat × Nat) : List (List (UInt8 × UInt8)) :=
  let byWidth := widthLimits.foldl (fun rs limit => rs.flatMap (cutAt limit)) [r]
  byWidth.flatMap fun r =>
    if r.2 ≤ 0x7F then [octetsOf r]
    else
      let blocks := [0x40, 0x1000, 0x40000].foldl (fun rs block => rs.flatMap (cutBlocks block)) [r]
      blocks.map octetsOf

/-- How many leading elements two lists share. -/
def sharedLength {α : Type} [BEq α] : List α → List α → Nat
  | a :: as, b :: bs => if a == b then sharedLength as bs + 1 else 0
  | _, _ => 0

/-- How many states sequences take after `last`, those that begin alike shared. -/
def countStates (last : List (UInt8 × UInt8)) : List (List (UInt8 × UInt8)) → Nat
  | [] => 0
  | s :: rest => s.length - sharedLength last s + countStates s rest

/-- The size of a state. -/
def stateSize : Nat := 32

/-- The size of a set of characters. -/
def CharSet.octetSize (s : CharSet) : Nat :=
  if s.isAscii then
    match s.ranges with
    | [(a, b)] => if a = b then stateSize else 2 * stateSize
    | ranges => 2 * stateSize + 8 * ranges.length
  else
    match s.ranges with
    | [(a, b)] =>
      if a = b then stateSize * (octetsOf (a, b)).length
      else
        let seqs := octetRanges (a, b)
        2 * stateSize + 4 * seqs.length + stateSize * countStates [] seqs
    | ranges =>
      let seqs := ranges.flatMap octetRanges
      2 * stateSize + 4 * seqs.length + stateSize * countStates [] seqs

/-- The size of an expression. -/
def octetSize : Pattern → Nat
  | .empty => stateSize
  | .chars set => set.octetSize
  | .look _ => stateSize
  | .concat p q => octetSize p + octetSize q
  | .alt p q => octetSize p + octetSize q + 2 * stateSize + 8
  | .group p => octetSize p + 2 * stateSize
  | .rep p min max =>
    let one := octetSize p
    match max with
    | some most => one * min + (most - min) * (one + stateSize + 8) + stateSize
    | none => one * Nat.max min 1 + stateSize + 8

/-- The greatest size that is accepted. -/
def sizeLimit : Nat := 10 * 1024 * 1024

/-- Whether an expression is too large. -/
def isTooLarge (p : Pattern) : Bool := sizeLimit < octetSize p

end MailPolicy.Pattern
