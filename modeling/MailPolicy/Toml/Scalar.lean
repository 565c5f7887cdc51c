/-
Reading the values of TOML that hold no others: strings, numbers, booleans and dates.

Every reader takes the text from where a value starts and gives back what follows the value.  A text that
starts like a date or a number must go on like one.

* `Toml.scalar` reads any of them;
* `Toml.string` and `Toml.singleLine` read strings, the second only those that may name a key.
-/
import MailPolicy.Decimal.Nearest
import MailPolicy.Toml.Value

namespace MailPolicy.Toml

/-- What is left of a text when something has been read off it. -/
abbrev Rest (s : Text) := { r : Text // r.length < s.length }

/-! ### Characters and lines -/

/-- Whether a character is a space or a tab. -/
def isSpace (c : Char) : Bool := c == ' ' || c == '\t'

/-- Whether a character may stand for itself: anything but control characters, a tab apart. -/
def isPlain (c : Char) : Bool := c == '\t' || (' ' ≤ c && c != '\x7f')

/-- Reads the end of a line. -/
def lineBreak? : (s : Text) → Option (Rest s)
  | '\n' :: r => some ⟨r, by simp⟩
  | '\r' :: '\n' :: r => some ⟨r, by simp only [List.length_cons]; omega⟩
  | _ => none

/-- What follows spaces, tabs and ends of lines. -/
def skipLines : Text → Text
  | ' ' :: r => skipLines r
  | '\t' :: r => skipLines r
  | '\n' :: r => skipLines r
  | '\r' :: '\n' :: r => skipLines r
  | s => s

theorem length_skipLines_le (s : Text) : (skipLines s).length ≤ s.length := by
  fun_induction skipLines s <;> simp_all <;> omega

theorem length_dropWhile_le {α : Type} (p : α → Bool) (l : List α) : (l.dropWhile p).length ≤ l.length :=
  (List.dropWhile_sublist p).length_le

/-! ### Strings -/

/-- The character with the given number in hexadecimal digits. -/
def charOf? (digits : Text) : Option Char :=
  (Text.ofDigits 16 digits).bind fun n => if n.isValidChar then some (Char.ofNat n) else none

/-- The character that one letter after a backslash stands for. -/
def shortEscape? : Char → Option Char
  | 'b' => some '\x08'
  | 't' => some '\t'
  | 'n' => some '\n'
  | 'f' => some '\x0c'
  | 'r' => some '\r'
  | '"' => some '"'
  | '\\' => some '\\'
  | _ => none

/-- Reads what follows a backslash. -/
def escape? : (s : Text) → Option (Char × Rest s)
  | 'u' :: a :: b :: c :: d :: r => (charOf? [a, b, c, d]).map (·, ⟨r, by simp only [List.length_cons]; omega⟩)
  | 'U' :: a :: b :: c :: d :: e :: f :: g :: h :: r =>
    (charOf? [a, b, c, d, e, f, g, h]).map (·, ⟨r, by simp only [List.length_cons]; omega⟩)
  | c :: r => (shortEscape? c).map (·, ⟨r, by simp⟩)
  | [] => none

/-- After a backslash: reads the rest of a line that has nothing but blanks, and all blanks after it. -/
def joinLines? (s : Text) : Option (Rest s) :=
  (lineBreak? (s.dropWhile isSpace)).map fun r =>
    ⟨skipLines r.1, by
      have h := r.2
      have := length_skipLines_le r.1
      have := length_dropWhile_le isSpace s
      omega⟩

/-- Reads a string in quotation marks from after the first of them. -/
def basicBody : Text → Option (Text × Text)
  | [] => none
  | c :: s =>
    if c = '"' then some ([], s)
    else if c = '\\' then
      match escape? s with
      | some (e, ⟨r, _⟩) => (basicBody r).map fun (t, r) => (e :: t, r)
      | none => none
    else if isPlain c then (basicBody s).map fun (t, r) => (c :: t, r)
    else none
termination_by s => s.length
decreasing_by all_goals simp; try omega

/-- Reads a string in apostrophes from after the first of them. -/
def literalBody : Text → Option (Text × Text)
  | [] => none
  | c :: s =>
    if c = '\'' then some ([], s)
    else if isPlain c then (literalBody s).map fun (t, r) => (c :: t, r)
    else none

/-- Reads a string of several lines from after its first three quotes.  Up to two quotes may stand before the
three that end it.  Where the quote is a quotation mark there are escapes, and a backslash at the end of a
line joins it with the next that is not blank. -/
def longBody (quote : Char) : Text → Option (Text × Text)
  | [] => none
  | c :: s =>
    if c = quote then
      match s with
      | q :: q' :: r =>
        if q = quote ∧ q' = quote then
          let extra := min 2 (r.takeWhile (· == quote)).length
          some (List.replicate extra quote, r.drop extra)
        else (longBody quote (q :: q' :: r)).map fun (t, r) => (c :: t, r)
      | _ => none
    else if c = '\\' ∧ quote = '"' then
      match joinLines? s with
      | some ⟨r, _⟩ => longBody quote r
      | none =>
        match escape? s with
        | some (e, ⟨r, _⟩) => (longBody quote r).map fun (t, r) => (e :: t, r)
        | none => none
    else
      match lineBreak? (c :: s) with
      | some ⟨r, _⟩ => (longBody quote r).map fun (t, r) => ('\n' :: t, r)
      | none => if isPlain c then (longBody quote s).map fun (t, r) => (c :: t, r) else none
termination_by s => s.length
decreasing_by all_goals simp_all; try omega

/-- What follows a line break, if the text starts with one. -/
def dropLineBreak (s : Text) : Text :=
  match lineBreak? s with
  | some r => r.1
  | none => s

/-- Reads a string on one line. -/
def singleLine : Text → Option (Text × Text)
  | '"' :: s => basicBody s
  | '\'' :: s => literalBody s
  | _ => none

/-- Reads a string. -/
def string : Text → Option (Text × Text)
  | '"' :: '"' :: '"' :: s => longBody '"' (dropLineBreak s)
  | '\'' :: '\'' :: '\'' :: s => longBody '\'' (dropLineBreak s)
  | s => singleLine s

/-! ### Numbers -/

/-- Whether a character is a digit of the given base. -/
def isDigitOf (base : Nat) (c : Char) : Bool := (Text.digitValue? base c).isSome

/-- Reads more digits of a number.  An underscore stands between two digits. -/
def moreDigits (base : Nat) : Text → Option (Text × Text)
  | '_' :: c :: s => if isDigitOf base c then (moreDigits base s).map fun (t, r) => (c :: t, r) else none
  | ['_'] => none
  | c :: s => if isDigitOf base c then (moreDigits base s).map fun (t, r) => (c :: t, r) else some ([], c :: s)
  | [] => some ([], [])

/-- Reads the digits of a number. -/
def digits (base : Nat) : Text → Option (Text × Text)
  | c :: s => if isDigitOf base c then (moreDigits base s).map fun (t, r) => (c :: t, r) else none
  | [] => none

/-- Reads the digits of a decimal integer; nothing follows a zero. -/
def wholeDigits : Text → Option (Text × Text)
  | '0' :: s => some (['0'], s)
  | s => digits 10 s

/-- Reads a sign and tells whether it is a minus. -/
def sign : Text → Bool × Text
  | '+' :: s => (false, s)
  | '-' :: s => (true, s)
  | s => (false, s)

/-- Reads a fraction if there is one. -/
def fraction : Text → Option (Text × Text)
  | '.' :: s => digits 10 s
  | s => some ([], s)

/-- Reads an exponent if there is one. -/
def exponent (s : Text) : Option (Option Int × Text) :=
  match s with
  | e :: r =>
    if e = 'e' ∨ e = 'E' then
      let (negative, r) := sign r
      match digits 10 r with
      | some (ds, r) =>
        (Text.ofDigits 10 ds).map fun n => (some (if negative then -(n : Int) else n), r)
      | none => none
    else some (none, s)
  | [] => some (none, [])

/-- The integer in a range of 64 bits. -/
def integer? (n : Int) : Option Value :=
  if -0x8000000000000000 ≤ n ∧ n < 0x8000000000000000 then some (.integer n) else none

/-- Positive infinity. -/
def infinity : Float := Float.ofBits 0x7FF0000000000000

/-- A number that is none. -/
def notANumber : Float := Float.ofBits 0x7FF8000000000000

/-- The number with a sign. -/
def signed (negative : Bool) (x : Float) : Float := if negative then -x else x

/-- Reads a decimal number; one with a fraction or an exponent is a float.  A float that is too large is
refused, one that is too small is not. -/
def decimal (s : Text) : Option (Value × Text) := do
  let (negative, r) := sign s
  let (whole, r) ← wholeDigits r
  let (frac, r) ← fraction r
  let (exp, r) ← exponent r
  if frac.isEmpty && exp.isNone then
    let n ← Text.ofDigits 10 whole
    let v ← integer? (if negative then -(n : Int) else n)
    return (v, r)
  else
    let n ← Text.ofDigits 10 (whole ++ frac)
    let x := Decimal.nearest negative n (exp.getD 0 - frac.length)
    if x == infinity then none else return (.float x, r)

/-- Reads a number in another base than ten, after the sign of the base. -/
def based (base : Nat) (s : Text) : Option (Value × Text) := do
  let (ds, r) ← digits base s
  let v ← integer? (← Text.ofDigits base ds)
  return (v, r)

/-- Reads a number. -/
def number (s : Text) : Option (Value × Text) :=
  match s with
  | '0' :: 'x' :: r => based 16 r
  | '0' :: 'o' :: r => based 8 r
  | '0' :: 'b' :: r => based 2 r
  | _ =>
    let (negative, r) := sign s
    match Text.stripStart "inf".toList r, Text.stripStart "nan".toList r with
    | some r, _ => some (.float (signed negative infinity), r)
    | _, some r => some (.float (signed negative notANumber), r)
    | none, none => decimal s

/-! ### Dates -/

/-- Reads a number of so many digits that lies in a range. -/
def field (count low high : Nat) (s : Text) : Option (Nat × Text) := do
  let n ← Text.ofDigits 10 (s.take count)
  if (s.take count).length = count ∧ low ≤ n ∧ n ≤ high then some (n, s.drop count) else none

/-- Reads the given character. -/
def sign? (c : Char) : Text → Option Text
  | d :: s => if c = d then some s else none
  | [] => none

/-- The length of a month. -/
def daysIn (year month : Nat) : Nat :=
  if month = 2 then if year % 4 = 0 ∧ (year % 100 ≠ 0 ∨ year % 400 = 0) then 29 else 28
  else if month = 4 ∨ month = 6 ∨ month = 9 ∨ month = 11 then 30
  else 31

/-- Reads a date. -/
def date (s : Text) : Option Text := do
  let (year, s) ← field 4 0 9999 s
  let s ← sign? '-' s
  let (month, s) ← field 2 1 12 s
  let s ← sign? '-' s
  let (_, s) ← field 2 1 (daysIn year month) s
  return s

/-- Reads a time of day; a minute may have one second more. -/
def time (s : Text) : Option Text := do
  let (_, s) ← field 2 0 23 s
  let s ← sign? ':' s
  let (_, s) ← field 2 0 59 s
  let s ← sign? ':' s
  let (_, s) ← field 2 0 60 s
  match s with
  | '.' :: c :: r => if Text.isDigit c then return r.dropWhile Text.isDigit else return s
  | _ => return s

/-- Reads the distance from universal time if there is one. -/
def offset (s : Text) : Option Text :=
  match s with
  | 'Z' :: r => some r
  | 'z' :: r => some r
  | c :: r =>
    if c = '+' ∨ c = '-' then do
      let (_, r) ← field 2 0 23 r
      let r ← sign? ':' r
      let (_, r) ← field 2 0 59 r
      return r
    else some s
  | [] => some []

/-- Whether a text starts with so many digits and then the given character. -/
def startsWithField (count : Nat) (after : Char) (s : Text) : Bool :=
  (s.take count).length == count && (s.take count).all Text.isDigit && (s.drop count).head? == some after

/-- Reads a date, a time or both. -/
def dateTime (s : Text) : Option Text :=
  if startsWithField 4 '-' s then do
    let r ← date s
    match r with
    | c :: t =>
      if c = 'T' ∨ c = 't' ∨ (c = ' ' ∧ startsWithField 2 ':' t) then offset (← time t) else return r
    | [] => return []
  else time s

/-! ### Any of them -/

/-- Whether a text starts like a date or a time. -/
def startsLikeDate (s : Text) : Bool := startsWithField 4 '-' s || startsWithField 2 ':' s

/-- Reads the given word. -/
def word (w : String) (v : Value) (s : Text) : Option (Value × Text) :=
  (Text.stripStart w.toList s).map (v, ·)

/-- Reads a value that holds no others. -/
def scalar (s : Text) : Option (Value × Text) :=
  match s with
  | '"' :: _ => (string s).map fun (t, r) => (.string t, r)
  | '\'' :: _ => (string s).map fun (t, r) => (.string t, r)
  | 't' :: _ => word "true" (.boolean true) s
  | 'f' :: _ => word "false" (.boolean false) s
  | _ =>
    if startsLikeDate s then
      (dateTime s).map fun r => (.dateTime (s.take (s.length - r.length)), r)
    else number s

end MailPolicy.Toml
