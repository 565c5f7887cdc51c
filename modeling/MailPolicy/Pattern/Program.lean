/-
Matching by an automaton.

An expression becomes a program of numbered instructions.  The matcher walks through the text with the set
of instructions that it could be at, so its time is bounded by the length of the text times the length of
the program.

* `Program.ofPattern` compiles an expression;
* `Program.isMatch` says whether some stretch of a text matches.
-/
import MailPolicy.Pattern.Syntax

namespace MailPolicy.Pattern

/-- An instruction of a program. -/
inductive Instruction where
  /-- Takes a character of a set. -/
  | take (set : Text.RangeTable) (next : Nat)
  /-- Goes on where a test holds. -/
  | test (l : Look) (next : Nat)
  /-- Goes on in two ways. -/
  | fork (first second : Nat)
  /-- Has found a match. -/
  | found

instance : Inhabited Instruction := ⟨.found⟩

/-- A program: its instructions and where it starts. -/
structure Program where
  code : Array Instruction
  start : Nat

namespace Program

/-- Repeats a step of a compilation. -/
def times {σ : Type} (n : Nat) (f : σ → σ) (s : σ) : σ :=
  match n with
  | 0 => s
  | n + 1 => times n f (f s)

/-- Adds an instruction in front of what has been compiled. -/
def push (p : Program) (i : Instruction) : Program := ⟨p.code.push i, p.code.size⟩

/-- Puts an expression in front of what has been compiled. -/
def before : Pattern → Program → Program
  | .empty, rest => rest
  | .chars set, rest => rest.push (.take set.table rest.start)
  | .look l, rest => rest.push (.test l rest.start)
  | .concat p q, rest => before p (before q rest)
  | .alt p q, rest =>
    let first := before p rest
    let second := before q ⟨first.code, rest.start⟩
    second.push (.fork first.start second.start)
  | .group p, rest => before p rest
  | .rep p min max, rest =>
    let tail :=
      match max with
      | some most =>
        times (most - min) (fun body : Program =>
          let once := before p body
          once.push (.fork once.start rest.start)) rest
      | none =>
        let loop := rest.push .found
        let once := before p loop
        ⟨once.code.set! loop.start (.fork once.start rest.start), loop.start⟩
    times min (before p) tail

/-- The program of an expression. -/
def ofPattern (p : Pattern) : Program := before p ⟨#[.found], 0⟩

/-! ### Running -/

/-- The instructions that take a character, reached from those in `stack` without taking any; the flag says
whether a match was found.  `seen` marks the instructions that were visited. -/
def close (p : Program) (prev next : Option Char) :
    Nat → List Nat → Array Bool → List Nat → Bool → List Nat × Bool
  | 0, _, _, takers, found => (takers, found)
  | fuel + 1, stack, seen, takers, found =>
    match stack with
    | [] => (takers, found)
    | i :: stack =>
      if seen.getD i true then close p prev next fuel stack seen takers found
      else
        let seen := seen.setIfInBounds i true
        match p.code.getD i .found with
        | .found => close p prev next fuel stack seen takers true
        | .take _ _ => close p prev next fuel stack seen (i :: takers) found
        | .test l target =>
          close p prev next fuel (if l.holds prev next then target :: stack else stack) seen takers found
        | .fork a b => close p prev next fuel (a :: b :: stack) seen takers found

/-- Visits that suffice: every instruction adds at most two to those where the walk starts. -/
def visits (p : Program) (stack : List Nat) : Nat := stack.length + 2 * p.code.size + 1

/-- Where the instructions that take the character go on. -/
def advance (p : Program) (c : Char) (takers : List Nat) : List Nat :=
  takers.filterMap fun i =>
    match p.code.getD i .found with
    | .take set next => if set.contains c then some next else none
    | _ => none

/-- Walks on from the instructions in `stack`, a match being free to start anywhere. -/
def search (p : Program) (prev : Option Char) (stack : List Nat) : Text → Bool
  | [] =>
    let stack := stack ++ [p.start]
    (p.close prev none (p.visits stack) stack (Array.replicate p.code.size false) [] false).2
  | c :: rest =>
    let stack := stack ++ [p.start]
    let (takers, found) :=
      p.close prev (some c) (p.visits stack) stack (Array.replicate p.code.size false) [] false
    found || search p (some c) (p.advance c takers) rest

/-- Whether some stretch of the text matches. -/
def isMatch (p : Program) (s : Text) : Bool := p.search none [] s

end Program
end MailPolicy.Pattern
