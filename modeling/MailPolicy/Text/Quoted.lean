/-
Quoted texts, as messages show a value that came from outside.

The text stands between double quotes.  A quote and a backslash get a backslash, tab, line feed, carriage
return and NUL have their letters, and a character that prints nothing or extends the one before it is
written by its hexadecimal number.  `quotedChar_of_plain` says which characters stand for themselves.
-/
import MailPolicy.Text.QuotedTable

namespace MailPolicy.Text

/-- The number of a character between `\u` and braces, in lower-case hexadecimal digits. -/
def numberedChar (c : Char) : Text :=
  ['\\', 'u', '\x7b'] ++ Nat.toDigits 16 c.toNat ++ ['\x7d']

/-- The form of a character inside a quoted text. -/
def quotedChar (c : Char) : Text :=
  if c = '"' then ['\\', '"']
  else if c = '\\' then ['\\', '\\']
  else if c = '\t' then ['\\', 't']
  else if c = '\n' then ['\\', 'n']
  else if c = '\r' then ['\\', 'r']
  else if c = '\x00' then ['\\', '0']
  else if 0x20 ≤ c.toNat ∧ c.toNat < 0x7F then [c]
  else if graphemeExtendTable.contains c || unprintableTable.contains c then numberedChar c
  else [c]

/-- The quoted form of a text. -/
def quoted (s : Text) : String := String.ofList ('"' :: s.flatMap quotedChar ++ ['"'])

theorem quotedChar_of_plain {c : Char} (h₁ : 0x20 ≤ c.toNat) (h₂ : c.toNat < 0x7F)
    (hq : c ≠ '"') (hb : c ≠ '\\') : quotedChar c = [c] := by
  have ht : c ≠ '\t' := by rintro rfl; exact absurd h₁ (by decide)
  have hn : c ≠ '\n' := by rintro rfl; exact absurd h₁ (by decide)
  have hr : c ≠ '\r' := by rintro rfl; exact absurd h₁ (by decide)
  have hz : c ≠ '\x00' := by rintro rfl; exact absurd h₁ (by decide)
  simp [quotedChar, hq, hb, ht, hn, hr, hz, h₁, h₂]

end MailPolicy.Text
