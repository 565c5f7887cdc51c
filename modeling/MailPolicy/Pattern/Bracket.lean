/-
Reading a bracketed class of characters.

A class is a union of characters, ranges, named classes and nested brackets; two such unions can be joined
by an operation, several operations from left to right.  A caret in front takes the complement.

`Bracket.read?` reads a class from its opening bracket on, and gives its depth as well as its characters.
-/
import MailPolicy.Pattern.Escape

namespace MailPolicy.Pattern

/-- The operations on two classes. -/
inductive SetOperation where
  | inter
  | diff
  | symmDiff
deriving DecidableEq, Repr

/-- The result of an operation. -/
def SetOperation.apply : SetOperation → CharSet → CharSet → CharSet
  | inter, s, t => s.inter t
  | diff, s, t => s.diff t
  | symmDiff, s, t => s.symmDiff t

namespace Bracket

/-- A class with the depth of its nesting. -/
structure Part where
  set : CharSet
  depth : Nat

/-- The items of a union read so far. -/
structure Items where
  set : CharSet := .empty
  count : Nat := 0
  depth : Nat := 0

/-- The union with one more item. -/
def Items.add (u : Items) (p : Part) : Items :=
  ⟨u.set.union p.set, u.count + 1, Nat.max u.depth p.depth⟩

/-- The class of the items; several items are one level deeper than each of them. -/
def Items.part (u : Items) : Part := ⟨u.set, if u.count ≤ 1 then u.depth else u.depth + 1⟩

/-- What is open: a bracket, or an operation that waits for its right side. -/
inductive Frame where
  /-- The items in front of the bracket, and whether a caret follows it. -/
  | opened (before : Items) (negate : Bool)
  /-- The operation and its left side. -/
  | operation (op : SetOperation) (left : Part)

/-- The state of a reader: what is open, innermost first, and the items of the union at hand. -/
structure State where
  frames : List Frame
  items : Items
  rest : Text

/-- Ends the operation at hand, if there is one, with its right side.  Case is settled on both sides. -/
def closeOperation (o : Options) (frames : List Frame) (right : Part) : List Frame × Part :=
  match frames with
  | .operation op left :: below =>
    (below, ⟨op.apply (o.caseOf left.set) (o.caseOf right.set), Nat.max left.depth right.depth + 1⟩)
  | _ => (frames, right)

/-- Reads hyphens, which mean themselves in front of all else. -/
def hyphens (o : Options) : Nat → Items → Text → Option (Items × Text)
  | 0, _, _ => none
  | fuel + 1, u, s =>
    if s.head? = some '-' then do hyphens o fuel (u.add ⟨.single '-', 0⟩) (← next? o s)
    else some (u, s)

/-- Reads an opening bracket with the caret and the characters that mean themselves right behind it. -/
def openBracket? (o : Options) (frames : List Frame) (before : Items) (s : Text) : Option State := do
  let s ← next? o s
  let negate := s.head? == some '^'
  let s ← if negate then next? o s else some s
  let (u, s) ← hyphens o (s.length + 1) {} s
  let frames := .opened before negate :: frames
  if u.count = 0 ∧ s.head? = some ']' then
    return ⟨frames, u.add ⟨.single ']', 0⟩, ← next? o s⟩
  else return ⟨frames, u, s⟩

/-- Reads a class named between colons, if there is one at hand. -/
def named? (o : Options) (s : Text) : Option (Option CharSet × Text) :=
  match s with
  | '[' :: ':' :: rest =>
    let (negate, rest) :=
      match rest with
      | '^' :: rest => (true, rest)
      | _ => (false, rest)
    let name := rest.takeWhile (· != ':')
    match rest.drop name.length with
    | ':' :: ']' :: rest => (o.asciiClass? negate (String.ofList name)).map (·, rest)
    | _ => none
  | _ => none

/-- Reads one element of a class. -/
def element? (o : Options) (s : Text) : Option (Atom × Text) :=
  match s with
  | '\\' :: rest => escape? o rest
  | c :: rest => some (.char c false, rest)
  | [] => none

/-- The character that an element is, as a member of a class. -/
def memberChar? (o : Options) : Atom → Option Char
  | .char c octet => if isHalfChar o c octet || (!o.unicode && 0x7F < c.toNat) then none else some c
  | _ => none

/-- The class that an element is. -/
def member? (o : Options) : Atom → Option CharSet
  | .set s => some s
  | a => (memberChar? o a).map CharSet.single

/-- Whether a hyphen at hand makes a range. -/
def makesRange (o : Options) (s : Text) : Bool :=
  match s with
  | '-' :: rest =>
    let after := (skipSpace o rest).head?
    after != some ']' && after != some '-'
  | _ => false

/-- Reads an element or a range. -/
def range? (o : Options) (s : Text) : Option (Part × Text) := do
  let (first, s) ← element? o s
  match skipSpace o s with
  | [] => none
  | s =>
    if !makesRange o s then return (⟨← member? o first, 0⟩, s)
    else
      let (last, s) ← element? o (← next? o s)
      let a ← memberChar? o first
      let b ← memberChar? o last
      if b < a then none else return (⟨.ofRange a b, 0⟩, s)

/-- Starts an operation whose left side has been read. -/
def operate (o : Options) (op : SetOperation) (st : State) (rest : Text) : State :=
  let (frames, left) := closeOperation o st.frames st.items.part
  ⟨.operation op left :: frames, {}, rest⟩

/-- What a step of a reader leads to: a class that is closed for good, or another state. -/
inductive Outcome where
  | closed (p : Part) (rest : Text)
  | more (st : State)

/-- Reads a closing bracket. -/
def closeBracket? (o : Options) (st : State) (rest : Text) : Option Outcome :=
  match closeOperation o st.frames st.items.part with
  | (.opened before negate :: below, inner) => do
    let set ← o.negated? negate (o.caseOf inner.set)
    let p : Part := ⟨set, inner.depth + 1⟩
    if below.isEmpty then return .closed p rest
    else return .more ⟨below, before.add p, rest⟩
  | _ => none

/-- Reads what is at hand inside of a class. -/
def step? (o : Options) (st : State) : Option Outcome :=
  match skipSpace o st.rest with
  | [] => none
  | '[' :: rest =>
    match named? o ('[' :: rest) with
    | some (some s, rest) => some (.more { st with items := st.items.add ⟨s, 0⟩, rest := rest })
    | some (none, _) => none
    | none => (openBracket? o st.frames st.items ('[' :: rest)).map .more
  | ']' :: rest => closeBracket? o st rest
  | '&' :: '&' :: rest => some (.more (operate o .inter st rest))
  | '-' :: '-' :: rest => some (.more (operate o .diff st rest))
  | '~' :: '~' :: rest => some (.more (operate o .symmDiff st rest))
  | s => (range? o s).map fun (p, rest) => .more { st with items := st.items.add p, rest := rest }

/-- Reads on, at most `fuel` steps. -/
def run? (o : Options) : Nat → State → Option (Part × Text)
  | 0, _ => none
  | fuel + 1, st =>
    match step? o st with
    | none => none
    | some (.closed p rest) => some (p, rest)
    | some (.more st) => run? o fuel st

/-- Reads a class from its opening bracket on. -/
def read? (o : Options) (s : Text) : Option (Part × Text) := do
  run? o (s.length + 1) (← openBracket? o [] {} s)

end Bracket
end MailPolicy.Pattern
