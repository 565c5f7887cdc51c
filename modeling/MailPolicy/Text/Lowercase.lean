/-
Lower case of a whole text.

Every character moves by its row of the table, capital I with a dot above becomes an i and a combining
dot, and a capital sigma becomes the final form exactly at the end of a word: a cased character stands
before it and none after it, characters that case ignores being passed over on both sides.

* `Text.lowerChar` is the map on a character outside any text;
* `Text.lower` is the map on texts.
-/
import MailPolicy.Text.LowercaseTable

namespace MailPolicy.Text

/-- The lower-case form of the character numbered `n`, as a number. -/
def lowerNat (n : Nat) : Nat :=
  match lowercaseRows.find? (CaseRow.covers · n) with
  | some r => r.move n
  | none => n

/-- The lower-case form of a character outside any text. -/
def lowerChar (c : Char) : Text :=
  if c.toNat < 0x80 then [lowerAsciiChar c]
  else if c = '\u0130' then ['i', '\u0307']
  else [Char.ofNat (lowerNat c.toNat)]

/-- Whether the first character that case does not ignore is cased. -/
def startsCased : Text → Bool
  | [] => false
  | c :: rest => if caseIgnorableTable.contains c then startsCased rest else casedTable.contains c

/-- The form of a capital sigma between the texts `before`, last character first, and `after`. -/
def lowerSigma (before after : Text) : Char :=
  if startsCased before && !startsCased after then '\u03C2' else '\u03C3'

/-- Lower case of what is left of a text, `before` holding the part already passed, last character first. -/
def lowerFrom (before : Text) : Text → Text
  | [] => []
  | c :: rest =>
    (if c = '\u03A3' then [lowerSigma before rest] else lowerChar c) ++ lowerFrom (c :: before) rest

/-- The lower-case form of a text. -/
def lower (s : Text) : Text := lowerFrom [] s

end MailPolicy.Text
