/-
Reading a regular expression.

The reader keeps a stack of open groups.  In each it holds the branches that are finished and the elements of
the branch at hand, every element with its depth, because an expression that is nested too deeply is
refused.  Options that a group sets end with the group.

* `Pattern.read?` reads a whole text as an expression;
* `Regex.make?` compiles it, unless it is too large; `Regex.isMatch` searches a text for it.
-/
import MailPolicy.Pattern.Bracket
import MailPolicy.Pattern.Program
import MailPolicy.Pattern.Size

namespace MailPolicy.Pattern

/-- An element of a branch. -/
structure Element where
  pattern : Pattern
  /-- How deeply it is nested. -/
  depth : Nat := 0
  /-- Whether it only sets options, so that it cannot be repeated. -/
  setsOptions : Bool := false

/-- The greatest depth that is accepted. -/
def maxDepth : Nat := 250

/-- An open group: what it interrupts and what it restores. -/
structure Opened where
  capturing : Bool
  elements : List Element
  branches : List Element
  options : Options

/-- The state of a reader.  Elements and branches stand last first. -/
structure Reader where
  options : Options := {}
  opened : List Opened := []
  elements : List Element := []
  branches : List Element := []
  /-- The names of groups so far. -/
  names : List Text := []
  rest : Text

/-- The depth of several parts next to each other. -/
def depthOf : List Element → Nat
  | [] => 0
  | [e] => e.depth
  | es => (es.map (·.depth)).foldl Nat.max 0 + 1

/-- The branch that some elements make, last first. -/
def branchOf (es : List Element) : Element :=
  match es with
  | [e] => e
  | es => { pattern := sequence (es.reverse.map (·.pattern)), depth := depthOf es }

/-- The choice that some branches make, last first. -/
def choiceOf (bs : List Element) : Element :=
  match bs with
  | [b] => b
  | bs => { pattern := choice (bs.reverse.map (·.pattern)), depth := depthOf bs }

namespace Reader

/-- Everything read since the innermost group was opened. -/
def content (r : Reader) : Element := choiceOf (branchOf r.elements :: r.branches)

/-- The reader with one more element, `rest` being left. -/
def add (r : Reader) (e : Element) (rest : Text) : Reader :=
  { r with elements := e :: r.elements, rest := rest }

/-- Opens a group. -/
def openGroup (r : Reader) (capturing : Bool) (inner : Options) (rest : Text) : Reader :=
  { r with
    options := inner
    opened := ⟨capturing, r.elements, r.branches, r.options⟩ :: r.opened
    elements := []
    branches := []
    rest := rest }

/-- Closes the innermost group. -/
def closeGroup? (r : Reader) (rest : Text) : Option Reader :=
  match r.opened with
  | [] => none
  | g :: below =>
    let inner := r.content
    let e : Element :=
      { pattern := if g.capturing then .group inner.pattern else inner.pattern, depth := inner.depth + 1 }
    some { r with
      options := g.options, opened := below, elements := e :: g.elements, branches := g.branches
      rest := rest }

/-! ### Groups -/

/-- Reads letters of options up to a colon or a closing parenthesis.  No letter and no hyphen may come twice,
and a letter has to follow the hyphen. -/
def options? (o : Options) (on : Bool) (seen : List Char) : Text → Option (Options × List Char × Text)
  | [] => none
  | c :: rest =>
    if c = ':' ∨ c = ')' then if seen.head? = some '-' then none else some (o, seen, c :: rest)
    else if c ∈ seen then none
    else if c = '-' then options? o false (c :: seen) rest
    else (o.set? c on).bind fun o => options? o on (c :: seen) rest

/-- Whether a character may stand in the name of a group. -/
def isNameChar (first : Bool) (c : Char) : Bool :=
  let letter := ((Pattern.property? "alphabetic").getD .empty).table
  let digit := (ofCategory "N").table
  c == '_' || letter.contains c || (!first && (c == '.' || c == '[' || c == ']' || digit.contains c))

/-- Reads the name of a group up to its closing angle bracket. -/
def name? (s : Text) : Option (Text × Text) :=
  let name := s.takeWhile (· != '>')
  match name, s.drop name.length with
  | c :: tail, '>' :: rest =>
    if isNameChar true c && tail.all (isNameChar false) then some (name, rest) else none
  | _, _ => none

/-- Opens a group with a name. -/
def named? (r : Reader) (s : Text) : Option Reader := do
  let (name, rest) ← name? s
  if name ∈ r.names then none
  else return { r.openGroup true r.options rest with names := name :: r.names }

/-- Whether what follows an opening parenthesis would look around, which nothing here can do. -/
def looksAround (s : Text) : Bool :=
  [['?', '='], ['?', '!'], ['?', '<', '='], ['?', '<', '!']].any fun start =>
    (Text.stripStart start s).isSome

/-- Reads what follows an opening parenthesis. -/
def group? (r : Reader) (s : Text) : Option Reader :=
  if looksAround s then none
  else
    match s with
    | '?' :: 'P' :: '<' :: rest => r.named? rest
    | '?' :: '<' :: rest => r.named? rest
    | '?' :: rest => do
      let (o, seen, rest) ← options? r.options true [] rest
      match rest with
      | ':' :: rest => return r.openGroup false o rest
      | _ :: rest =>
        if seen.isEmpty then none
        else return { r.add { pattern := .empty, setsOptions := true } rest with options := o }
      | [] => none
    | rest => some (r.openGroup true r.options rest)

/-! ### Repetitions -/

/-- Repeats the last element; there has to be one that can be repeated. -/
def repeat? (r : Reader) (min : Nat) (max : Option Nat) (rest : Text) : Option Reader :=
  match r.elements with
  | [] => none
  | e :: before =>
    if e.setsOptions then none
    else some { r with
      elements := { pattern := e.pattern.repeated min max, depth := e.depth + 1 } :: before
      rest := rest }

/-- Drops a question mark, which only makes a repetition lazy. -/
def dropLazy (s : Text) : Text :=
  match s with
  | '?' :: rest => rest
  | s => s

/-- Reads digits with space between them. -/
def digits (o : Options) : Nat → Text → Text → Text × Text
  | 0, ds, s => (ds, s)
  | fuel + 1, ds, s =>
    match s with
    | c :: rest => if Text.isDigit c then digits o fuel (ds ++ [c]) (skipSpace o rest) else (ds, s)
    | [] => (ds, [])

/-- The first number that is too great for a count. -/
def countLimit : Nat := 0x100000000

/-- Reads a count, blanks around it dropped; no count is there if no digit is. -/
def count? (o : Options) (s : Text) : Option (Option Nat × Text) :=
  let (ds, rest) := digits o (s.length + 1) [] (s.dropWhile Text.isBlank)
  let rest := skipSpace o (rest.dropWhile Text.isBlank)
  if ds.isEmpty then some (none, rest)
  else (Text.ofDigits 10 ds).bind fun n => if n < countLimit then some (some n, rest) else none

/-- Reads a repetition by counts from its opening brace on. -/
def counted? (r : Reader) (s : Text) : Option Reader := do
  let s ← next? r.options s
  let (min, s) ← count? r.options s
  let min ← min
  let (max, s) ←
    match s with
    | ',' :: _ => do
      let s ← next? r.options s
      if s.head? = some '\x7d' then some (none, s)
      else
        let (max, s) ← count? r.options s
        some (some (← max), s)
    | s => some (some min, s)
  match s with
  | '\x7d' :: rest =>
    if max.any (· < min) then none else r.repeat? min max (dropLazy (skipSpace r.options rest))
  | _ => none

/-! ### The whole -/

/-- Adds the expression that an element is. -/
def atom? (r : Reader) (a : Atom) (rest : Text) : Option Reader :=
  (a.pattern? r.options).map fun p => r.add { pattern := p } rest

/-- Reads what is at hand. -/
def step? (r : Reader) (c : Char) (rest : Text) : Option Reader :=
  let o := r.options
  if c = '(' then r.group? (skipSpace o rest)
  else if c = ')' then r.closeGroup? rest
  else if c = '|' then
    some { r with elements := [], branches := branchOf r.elements :: r.branches, rest := rest }
  else if c = '[' then
    (Bracket.read? o (c :: rest)).map fun (p, rest) =>
      r.add { pattern := .chars p.set, depth := p.depth } rest
  else if c = '?' then r.repeat? 0 (some 1) (dropLazy rest)
  else if c = '*' then r.repeat? 0 none (dropLazy rest)
  else if c = '+' then r.repeat? 1 none (dropLazy rest)
  else if c = '\x7b' then r.counted? (c :: rest)
  else if c = '\\' then (escape? o rest).bind fun (a, rest) => r.atom? a rest
  else if c = '.' then o.dot?.map fun p => r.add { pattern := p } rest
  else if c = '^' then some (r.add { pattern := .look o.start } rest)
  else if c = '$' then some (r.add { pattern := .look o.stop } rest)
  else r.atom? (.char c false) rest

/-- Reads on, at most `fuel` steps, until the text is at its end and no group is open. -/
def run? : Nat → Reader → Option Element
  | 0, _ => none
  | fuel + 1, r =>
    match skipSpace r.options r.rest with
    | [] => if r.opened.isEmpty then some r.content else none
    | c :: rest =>
      match r.step? c rest with
      | some r => run? fuel r
      | none => none

end Reader

/-- The expression that a text writes, if it writes one. -/
def read? (s : Text) : Option Pattern :=
  match Reader.run? (s.length + 1) { rest := s } with
  | some e => if e.depth ≤ maxDepth then some e.pattern else none
  | none => none

end Pattern

/-- A regular expression, ready to search with. -/
structure Regex where
  program : Pattern.Program

namespace Regex

/-- The regular expression that a text writes, if it writes one that is not too large. -/
def make? (s : Text) : Option Regex :=
  match Pattern.read? s with
  | some p => if p.isTooLarge then none else some ⟨.ofPattern p⟩
  | none => none

/-- Whether some stretch of a text matches. -/
def isMatch (r : Regex) (s : Text) : Bool := r.program.isMatch s

end Regex
end MailPolicy
