/-
Text as a list of characters.

Attribute values, domains, zones, patterns and policy records are all read one character at a time, so
the library keeps them as `Text` and turns them into a `String` only where a message is written.

* `Text.splitFirst`, `Text.splitLast` cut at the first or last character that passes a test;
* `Text.dropEnds` strips a class of characters from both ends;
* `Text.lowerAscii` is the ASCII case map, which leaves every other character alone.
-/
namespace MailPolicy

/-- A text, character by character. -/
abbrev Text := List Char

namespace Text

/-- What stands before the first character that passes `p`, and what stands after it. -/
def splitFirst (p : Char → Bool) : Text → Option (Text × Text)
  | [] => none
  | c :: rest => if p c then some ([], rest) else (splitFirst p rest).map fun (a, b) => (c :: a, b)

/-- What stands before the last character that passes `p`, and what stands after it. -/
def splitLast (p : Char → Bool) : Text → Option (Text × Text)
  | [] => none
  | c :: rest =>
    match splitLast p rest with
    | some (a, b) => some (c :: a, b)
    | none => if p c then some ([], rest) else none

/-- The text without the characters at its end that pass `p`. -/
def dropEnd (p : Char → Bool) (s : Text) : Text :=
  (s.reverse.dropWhile p).reverse

/-- The text without the characters at either end that pass `p`. -/
def dropEnds (p : Char → Bool) (s : Text) : Text :=
  dropEnd p (s.dropWhile p)

/-- `some` of the rest if the text starts with `start`. -/
def stripStart : Text → Text → Option Text
  | [], s => some s
  | _ :: _, [] => none
  | c :: start, d :: s => if c = d then stripStart start s else none

/-- Lower-case form of an ASCII letter; any other character is its own. -/
def lowerAsciiChar (c : Char) : Char :=
  if 'A' ≤ c ∧ c ≤ 'Z' then Char.ofNat (c.toNat + 32) else c

/-- ASCII letters in lower case, all else unchanged. -/
def lowerAscii (s : Text) : Text := s.map lowerAsciiChar

/-- Equality up to the case of ASCII letters. -/
def eqAsciiCase (s t : Text) : Bool := lowerAscii s == lowerAscii t

/-- Whether the character is one of the ten ASCII digits. -/
def isDigit (c : Char) : Bool := '0' ≤ c && c ≤ '9'

/-- The value of a digit of the given base, at most sixteen, in either case. -/
def digitValue? (base : Nat) (c : Char) : Option Nat :=
  let v :=
    if '0' ≤ c ∧ c ≤ '9' then some (c.toNat - '0'.toNat)
    else if 'a' ≤ c ∧ c ≤ 'f' then some (c.toNat - 'a'.toNat + 10)
    else if 'A' ≤ c ∧ c ≤ 'F' then some (c.toNat - 'A'.toNat + 10)
    else none
  v.filter (· < base)

/-- The number that a run of digits writes in the given base. -/
def ofDigits (base : Nat) (s : Text) : Option Nat :=
  s.foldl (fun acc c => do return (← acc) * base + (← digitValue? base c)) (some 0)

/-- A number in decimal digits. -/
def decimal (n : Nat) : Text := Nat.toDigits 10 n

/-! ### What the cuts keep -/

theorem splitFirst_eq_none_iff {p : Char → Bool} {s : Text} :
    splitFirst p s = none ↔ ∀ c ∈ s, p c = false := by
  induction s with
  | nil => simp [splitFirst]
  | cons c rest ih => by_cases h : p c <;> simp [splitFirst, h, ih]

theorem splitLast_eq_none_iff {p : Char → Bool} {s : Text} :
    splitLast p s = none ↔ ∀ c ∈ s, p c = false := by
  induction s with
  | nil => simp [splitLast]
  | cons c rest ih =>
    cases hr : splitLast p rest with
    | none =>
      have hrest := ih.mp hr
      by_cases h : p c
      · simp [splitLast, hr, h]
      · simpa [splitLast, hr, h] using hrest
    | some ab =>
      have : ¬ ∀ c ∈ rest, p c = false := fun h => by simp [ih.mpr h] at hr
      simp only [splitLast, hr]
      simp only [reduceCtorEq, List.mem_cons, forall_eq_or_imp, false_iff, not_and]
      exact fun _ => this

@[simp] theorem lowerAscii_nil : lowerAscii [] = [] := rfl

@[simp] theorem lowerAscii_cons (c : Char) (s : Text) :
    lowerAscii (c :: s) = lowerAsciiChar c :: lowerAscii s := rfl

end Text
end MailPolicy
