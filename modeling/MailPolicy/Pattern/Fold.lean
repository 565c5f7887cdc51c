/-
Character classes up to case.

* `CharSet.closeCase` adds every character that has the same fold as one in the set.
-/
import MailPolicy.Pattern.CharSet
import MailPolicy.Pattern.FoldTable

namespace MailPolicy.Pattern

/-- The characters that a row folds, with their folds. -/
def foldsOfRow (r : Text.CaseRow) : List (Nat × Nat) :=
  (List.range ((r.2.1 - r.1) / r.2.2.1 + 1)).map fun i =>
    (r.1 + i * r.2.2.1, r.move (r.1 + i * r.2.2.1))

/-- Every character that is not its own fold, with its fold. -/
def foldPairs : List (Nat × Nat) := foldRows.flatMap foldsOfRow

/-- The set with the given characters added. -/
def CharSet.insertAll (s : CharSet) (ns : List Nat) : CharSet :=
  if ns.isEmpty then s else s.union (.ofRanges (ns.map fun n => (n, n)))

/-- The set with every character that has the same fold as one of its own. -/
def CharSet.closeCase (s : CharSet) : CharSet :=
  let t := s.table
  let folded := s.insertAll ((foldPairs.filter fun p => t.containsNat p.1).map (·.2))
  let u := folded.table
  folded.insertAll ((foldPairs.filter fun p => u.containsNat p.2).map (·.1))

/-- The set with both cases of its ASCII letters. -/
def CharSet.closeAsciiCase (s : CharSet) : CharSet :=
  let capitals := s.inter ⟨[(0x41, 0x5A)]⟩
  let smalls := s.inter ⟨[(0x61, 0x7A)]⟩
  let lowered := capitals.ranges.map fun r => (r.1 + 32, r.2 + 32)
  let raised := smalls.ranges.map fun r => (r.1 - 32, r.2 - 32)
  .ofRanges (s.ranges ++ lowered ++ raised)

end MailPolicy.Pattern
