/-
How a file of keys is written.

A line holds one key, which blanks, a number sign or the end of the line end, or it holds none.  The
inductive relations `KeyLine` and `KeyText` say this without a parser; the functions that read a file
find exactly the keys that they say are there.

* `Text.lines_append_feed`, `Text.lines_of_feedless` — where lines end;
* `KeyLine`, `keyLine_iff` — a line and the key on it;
* `KeyText`, `keyText_iff` — a text and the keys on its lines;
* `KeyText.mem_parse_iff` — **the keys that are read are those of the lines, in lower case**.
-/
import MailPolicy.Check.KeyFile
import MailPolicy.Proofs.Text.Cuts

namespace MailPolicy

open Text (isBlank words lines linesFrom)

/-! ### Lines -/

theorem Text.linesFrom_append_feedless (line : Text) {s : Text} (t : Text) (h : '\n' ∉ s) :
    linesFrom line (s ++ t) = linesFrom (line ++ s) t := by
  induction s generalizing line with
  | nil => rw [List.nil_append, List.append_nil]
  | cons c s ih =>
    have hc : c ≠ '\n' := fun hc => h (hc ▸ List.mem_cons_self)
    rw [List.cons_append, linesFrom, if_neg hc, ih _ fun hs => h (List.mem_cons_of_mem c hs),
      List.append_assoc, List.singleton_append]

/-- A line that the text ends is a line unless it is empty. -/
theorem Text.lines_of_feedless {line : Text} (h : '\n' ∉ line) :
    lines line = if line.isEmpty then [] else [line] := by
  have hfrom := Text.linesFrom_append_feedless [] [] h
  rw [List.append_nil, List.nil_append] at hfrom
  rw [lines, hfrom, linesFrom]

/-- A line feed ends a line, with a carriage return before it. -/
theorem Text.lines_append_feed {line : Text} (rest : Text) (h : '\n' ∉ line) :
    lines (line ++ '\n' :: rest) =
      (if line.getLast? = some '\r' then line.dropLast else line) :: lines rest := by
  rw [lines, Text.linesFrom_append_feedless _ _ h, List.nil_append, linesFrom, if_pos rfl, lines]
  congr 1
  split
  · rename_i hlast
    rw [if_pos hlast]
  · rename_i hlast
    rw [if_neg hlast]

/-! ### A line and its key -/

/-- A line of a file of keys, and the key that it holds. -/
inductive KeyLine : Text → Option Text → Prop
  /-- Blanks, and a comment perhaps. -/
  | silent {blanks comment : Text} (blank : ∀ c ∈ blanks, isBlank c = true)
      (starts : ∀ c, comment.head? = some c → c = '#') : KeyLine (blanks ++ comment) none
  /-- A key, and whatever follows behind a blank or a number sign. -/
  | key {blanks word rest : Text} (blank : ∀ c ∈ blanks, isBlank c = true) (nonempty : word ≠ [])
      (plain : ∀ c ∈ word, isBlank c = false ∧ c ≠ '#')
      (ends : ∀ c, rest.head? = some c → isBlank c = true ∨ c = '#') :
      KeyLine (blanks ++ word ++ rest) (some word)

/-- The key on a line, as it is written there. -/
def KeySet.keyWord? (line : Text) : Option Text := (words (KeySet.uncommented line)).head?

open KeySet (uncommented keyWord?)

/-- Blanks and keys stay in front of a comment. -/
theorem uncommented_append {s t : Text} (h : ∀ c ∈ s, c ≠ '#') :
    uncommented (s ++ t) = s ++ uncommented t := by
  rw [uncommented, List.takeWhile_append_of_pos fun c hc => by simpa using h c hc, uncommented]

/-- A comment is all that is left out of a line. -/
theorem exists_comment (line : Text) : ∃ comment, line = uncommented line ++ comment ∧
    ∀ c, comment.head? = some c → c = '#' := by
  refine ⟨line.dropWhile (· != '#'), List.takeWhile_append_dropWhile.symm, fun c hc => ?_⟩
  simpa using Text.head?_dropWhile hc

theorem ne_hash_of_isBlank {c : Char} (h : isBlank c = true) : c ≠ '#' := by
  rintro rfl
  exact absurd h (by decide)

theorem keyWord?_of_keyLine {line : Text} {key : Option Text} (h : KeyLine line key) :
    keyWord? line = key := by
  cases h with
  | @silent blanks comment blank starts =>
    have hcomment : uncommented comment = [] := by
      cases comment with
      | nil => rfl
      | cons c comment => simp [uncommented, starts c rfl]
    rw [keyWord?, uncommented_append fun c hc => ne_hash_of_isBlank (blank c hc), hcomment,
      List.append_nil, Text.words_eq_nil_iff.mpr blank]
    rfl
  | @key blanks word rest blank nonempty plain ends =>
    have hends : ∀ c, (uncommented rest).head? = some c → isBlank c = true := by
      intro c hc
      cases rest with
      | nil => cases hc
      | cons d rest =>
        by_cases hd : d = '#'
        · simp [uncommented, hd] at hc
        · simp only [uncommented, List.takeWhile_cons, bne_iff_ne, ne_eq, hd, not_false_eq_true,
            if_true, List.head?_cons, Option.some.injEq] at hc
          exact hc ▸ (ends d rfl).resolve_right hd
    have hwords := Text.Words.cons blank (fun c hc => (plain c hc).1) nonempty hends
      (Text.words_eq_iff.mp rfl)
    have hplain : ∀ c ∈ blanks ++ word, c ≠ '#' := by
      intro c hc
      rcases List.mem_append.mp hc with hc | hc
      · exact ne_hash_of_isBlank (blank c hc)
      · exact (plain c hc).2
    rw [keyWord?, uncommented_append hplain, Text.words_eq_iff.mpr hwords]
    rfl

theorem keyLine_keyWord? (line : Text) : KeyLine line (keyWord? line) := by
  obtain ⟨comment, hline, hcomment⟩ := exists_comment line
  have hplain : ∀ c ∈ uncommented line, c ≠ '#' := fun c hc => by
    simpa using List.mem_takeWhile_imp hc
  have hwords := Text.words_eq_iff.mp (rfl : words (uncommented line) = _)
  unfold keyWord?
  -- The cases are those of the words in front of the comment.
  generalize words (uncommented line) = ws at hwords
  generalize uncommented line = front at hline hplain hwords
  subst hline
  cases hwords with
  | nil blank => exact .silent blank hcomment
  | @cons blanks word rest words blank solid nonempty ends tail =>
    rw [List.append_assoc]
    refine .key blank nonempty (fun c hc => ⟨solid c hc, hplain c ?_⟩) fun c hc => ?_
    · exact List.mem_append_left _ (List.mem_append_right _ hc)
    · cases rest with
      | nil => exact .inr (hcomment c hc)
      | cons d rest => exact .inl (ends c hc)

/-- The key on a line is the word in front of the comment that comes first. -/
theorem keyLine_iff {line : Text} {key : Option Text} : KeyLine line key ↔ keyWord? line = key :=
  ⟨keyWord?_of_keyLine, fun h => h ▸ keyLine_keyWord? line⟩

/-- A blank at the end of a line makes no difference. -/
theorem keyWord?_append_blank (line : Text) {c : Char} (hc : isBlank c = true) :
    keyWord? (line ++ [c]) = keyWord? line := by
  refine keyWord?_of_keyLine ?_
  have hline := keyLine_keyWord? line
  generalize keyWord? line = key at hline
  cases hline with
  | @silent blanks comment blank starts =>
    cases comment with
    | nil =>
      rw [List.append_nil, ← List.append_nil (blanks ++ [c])]
      refine .silent (fun d hd => ?_) nofun
      rcases List.mem_append.mp hd with hd | hd
      · exact blank d hd
      · exact List.mem_singleton.mp hd ▸ hc
    | cons d comment =>
      rw [List.append_assoc]
      exact .silent blank starts
  | @key blanks word rest blank nonempty plain ends =>
    rw [List.append_assoc]
    refine .key blank nonempty plain fun d hd => ?_
    cases rest with
    | nil => exact .inl (Option.some.inj hd ▸ hc)
    | cons x rest => exact ends d hd

/-! ### A text and its keys -/

/-- A text of a file of keys, and the keys on its lines.  A line feed ends a line, with a carriage
return perhaps; the last line may lack it. -/
inductive KeyText : Text → List Text → Prop
  | last {line : Text} {key : Option Text} (isLine : KeyLine line key) (feedless : '\n' ∉ line) :
      KeyText line key.toList
  | line {line feed rest : Text} {key : Option Text} {keys : List Text} (isLine : KeyLine line key)
      (feedless : '\n' ∉ line) (isFeed : feed = ['\n'] ∨ feed = ['\r', '\n'])
      (tail : KeyText rest keys) : KeyText (line ++ feed ++ rest) (key.toList ++ keys)

/-- The keys on the lines of a text, as they are written there. -/
def KeySet.keyWords (text : Text) : List Text := (lines text).filterMap keyWord?

open KeySet (keyWords)

theorem keyWords_of_feedless {line : Text} (h : '\n' ∉ line) :
    keyWords line = (keyWord? line).toList := by
  rw [keyWords, Text.lines_of_feedless h]
  cases line with
  | nil => rfl
  | cons c line => cases hkey : keyWord? (c :: line) <;> simp [hkey]

theorem keyWords_append_feed {line : Text} (rest : Text) (h : '\n' ∉ line) :
    keyWords (line ++ '\n' :: rest) = (keyWord? line).toList ++ keyWords rest := by
  have hcut : keyWord? (if line.getLast? = some '\r' then line.dropLast else line) =
      keyWord? line := by
    split
    · rename_i hlast
      obtain ⟨front, rfl⟩ := List.getLast?_eq_some_iff.mp hlast
      rw [List.dropLast_concat, keyWord?_append_blank front (by decide)]
    · rfl
  rw [keyWords, Text.lines_append_feed rest h, List.filterMap_cons, hcut]
  cases keyWord? line <;> rfl

theorem KeyText.keyWords_eq {text : Text} {keys : List Text} (h : KeyText text keys) :
    keyWords text = keys := by
  induction h with
  | last isLine feedless => rw [keyWords_of_feedless feedless, keyLine_iff.mp isLine]
  | @line line feed rest key keys isLine feedless isFeed tail ih =>
    rcases isFeed with rfl | rfl
    · rw [List.append_assoc, List.singleton_append, keyWords_append_feed rest feedless,
        keyLine_iff.mp isLine, ih]
    · have hmore : '\n' ∉ line ++ ['\r'] := by simpa using feedless
      have hsplit : line ++ ['\r', '\n'] ++ rest = line ++ ['\r'] ++ '\n' :: rest := by simp
      rw [hsplit, keyWords_append_feed rest hmore, keyWord?_append_blank line (by decide),
        keyLine_iff.mp isLine, ih]

theorem keyText_keyWords (text : Text) : KeyText text (keyWords text) := by
  cases hcut : Text.splitFirst (· == '\n') text with
  | none =>
    have hfeedless : '\n' ∉ text := fun hmem => by
      simpa using Text.splitFirst_eq_none_iff.mp hcut '\n' hmem
    rw [keyWords_of_feedless hfeedless]
    exact .last (keyLine_keyWord? text) hfeedless
  | some parts =>
    obtain ⟨line, rest⟩ := parts
    obtain ⟨c, htext, hc, hline⟩ := Text.splitFirst_eq_some_iff.mp hcut
    obtain rfl := beq_iff_eq.mp hc
    have hfeedless : '\n' ∉ line := fun hmem => by simpa using hline '\n' hmem
    have hshorter : rest.length < text.length := by
      rw [htext, List.length_append, List.length_cons]
      omega
    rw [htext, keyWords_append_feed rest hfeedless, ← List.singleton_append, ← List.append_assoc]
    exact .line (keyLine_keyWord? line) hfeedless (.inl rfl) (keyText_keyWords rest)
termination_by text.length

/-- Every text is one of a file of keys, and the keys are the first words of its lines. -/
theorem keyText_iff {text : Text} {keys : List Text} : KeyText text keys ↔ keyWords text = keys :=
  ⟨KeyText.keyWords_eq, fun h => h ▸ keyText_keyWords text⟩

theorem KeySet.parse_eq (text : Text) : parse text = ((keyWords text).map Text.lower).eraseDups := by
  rw [parse, keyWords, List.map_filterMap]
  rfl

/-- The keys that are read from a text are the lower-case forms of those on its lines. -/
theorem KeyText.mem_parse_iff {text key : Text} {keys : List Text} (h : KeyText text keys) :
    key ∈ KeySet.parse text ↔ key ∈ keys.map Text.lower := by
  rw [KeySet.parse_eq, h.keyWords_eq, List.mem_eraseDups]

end MailPolicy
