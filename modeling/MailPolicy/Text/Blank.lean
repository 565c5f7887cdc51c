/-
Blank characters: the twenty-five characters with the property `White_Space`.

Trimming and splitting follow this one class throughout, so a value is cut at a no-break space or at a
line separator as much as at an ordinary space.  `words_eq_nil_iff` says when a text holds no word.
-/
import MailPolicy.Text.Basic

namespace MailPolicy.Text

/-- The characters with the property `White_Space`. -/
def isBlank (c : Char) : Bool :=
  let n := c.toNat
  (9 ≤ n && n ≤ 13) || n == 0x20 || n == 0x85 || n == 0xA0 || n == 0x1680 ||
    (0x2000 ≤ n && n ≤ 0x200A) || n == 0x2028 || n == 0x2029 || n == 0x202F || n == 0x205F ||
    n == 0x3000

/-- The text without the blanks at either end. -/
def trim (s : Text) : Text := dropEnds isBlank s

/-- The maximal runs of characters that are not blank, `word` being the run read so far. -/
def wordsFrom (word : Text) : Text → List Text
  | [] => if word.isEmpty then [] else [word]
  | c :: rest =>
    if isBlank c then
      if word.isEmpty then wordsFrom [] rest else word :: wordsFrom [] rest
    else wordsFrom (word ++ [c]) rest

/-- The maximal runs of characters that are not blank, in order. -/
def words (s : Text) : List Text := wordsFrom [] s

/-- Lines end at a line feed, a carriage return before it going with it; a last line may lack the feed. -/
def linesFrom (line : Text) : Text → List Text
  | [] => if line.isEmpty then [] else [line]
  | c :: rest =>
    if c = '\n' then
      (match line.getLast? with
        | some '\r' => line.dropLast
        | _ => line) :: linesFrom [] rest
    else linesFrom (line ++ [c]) rest

/-- The lines of a text. -/
def lines (s : Text) : List Text := linesFrom [] s

/-! ### Blanks and words -/

theorem wordsFrom_eq_nil_iff {word s : Text} :
    wordsFrom word s = [] ↔ word = [] ∧ ∀ c ∈ s, isBlank c = true := by
  induction s generalizing word with
  | nil => cases word <;> simp [wordsFrom]
  | cons c rest ih =>
    by_cases h : isBlank c
    · cases word <;> simp [wordsFrom, h, ih]
    · simp [wordsFrom, h, ih]

/-- A text has no word exactly when all of it is blank. -/
theorem words_eq_nil_iff {s : Text} : words s = [] ↔ ∀ c ∈ s, isBlank c = true := by
  simp [words, wordsFrom_eq_nil_iff]

end MailPolicy.Text
