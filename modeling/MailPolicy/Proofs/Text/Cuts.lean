/-
Where a text is cut.

* `Text.splitFirst_eq_some_iff`, `Text.splitLast_eq_some_iff` — the cuts at the first and at the last
  character that passes a test;
* `Text.stripStart_eq_some_iff` — what is left behind a start;
* `Text.takeWhile_dropWhile_append` — a cut is found again where it was made;
* `Text.dropEnds_eq_nil_iff` — a text is stripped to nothing if every character of it is;
* `Text.dropEnd_eq_iff` — stripping one end leaves a part that ends otherwise;
* `Text.dropEnds_dropEnds` — stripping a text again changes nothing;
* `Text.words_eq_iff` — the words of a text are its longest parts without a blank.
-/
import Mathlib.Data.List.DropRight
import MailPolicy.Text.Blank

namespace MailPolicy.Text

variable {p : Char → Bool} {s t : Text} {c : Char}

theorem splitFirst_append (t : Text) (hs : ∀ x ∈ s, p x = false) (hc : p c = true) :
    splitFirst p (s ++ c :: t) = some (s, t) := by
  induction s with
  | nil => simp [splitFirst, hc]
  | cons x s ih =>
    obtain ⟨hx, hs⟩ := List.forall_mem_cons.mp hs
    simp [splitFirst, hx, ih hs]

theorem splitFirst_eq_some_iff {a b : Text} :
    splitFirst p s = some (a, b) ↔ ∃ c, s = a ++ c :: b ∧ p c = true ∧ ∀ x ∈ a, p x = false := by
  constructor
  · intro h
    induction s generalizing a with
    | nil => cases h
    | cons c rest ih =>
      by_cases hc : p c
      · simp only [splitFirst, hc, if_true, Option.some.injEq, Prod.mk.injEq] at h
        obtain ⟨rfl, rfl⟩ := h
        exact ⟨c, rfl, hc, fun _ hx => absurd hx List.not_mem_nil⟩
      · simp only [splitFirst, hc, Bool.false_eq_true, if_false, Option.map_eq_some_iff,
          Prod.exists, Prod.mk.injEq] at h
        obtain ⟨a, b, hrest, rfl, rfl⟩ := h
        obtain ⟨d, rfl, hd, ha⟩ := ih hrest
        exact ⟨d, rfl, hd, List.forall_mem_cons.mpr ⟨by simpa using hc, ha⟩⟩
  · rintro ⟨c, rfl, hc, ha⟩
    exact splitFirst_append b ha hc

theorem stripStart_eq_some_iff {start rest : Text} :
    stripStart start s = some rest ↔ s = start ++ rest := by
  fun_induction stripStart start s with
  | case1 s => simp [eq_comm]
  | case2 => simp
  | case3 c start s ih => simp [ih]
  | case4 c start d s hne => simp [Ne.symm hne]

theorem splitLast_append (s : Text) (hc : p c = true) (ht : ∀ x ∈ t, p x = false) :
    splitLast p (s ++ c :: t) = some (s, t) := by
  induction s with
  | nil => simp [splitLast, splitLast_eq_none_iff.mpr ht, hc]
  | cons x s ih => simp [splitLast, ih]

theorem splitLast_eq_some_iff {a b : Text} :
    splitLast p s = some (a, b) ↔ ∃ c, s = a ++ c :: b ∧ p c = true ∧ ∀ x ∈ b, p x = false := by
  constructor
  · intro h
    induction s generalizing a with
    | nil => cases h
    | cons c rest ih =>
      rw [splitLast] at h
      split at h
      next a' b' hrest =>
        obtain ⟨rfl, rfl⟩ := Prod.mk.inj (Option.some.inj h)
        obtain ⟨d, rfl, hd, hb⟩ := ih hrest
        exact ⟨d, rfl, hd, hb⟩
      next hrest =>
        obtain ⟨hc, hsome⟩ := Option.ite_none_right_eq_some.mp h
        obtain ⟨rfl, rfl⟩ := Prod.mk.inj (Option.some.inj hsome)
        exact ⟨c, rfl, hc, splitLast_eq_none_iff.mp hrest⟩
  · rintro ⟨c, rfl, hc, hb⟩
    exact splitLast_append a hc hb

theorem mem_dropWhile (hc : p c = false) : c ∈ s.dropWhile p ↔ c ∈ s := by
  constructor
  · exact fun h => (List.dropWhile_sublist p).subset h
  · intro h
    rw [← List.takeWhile_append_dropWhile (p := p) (l := s), List.mem_append] at h
    rcases h with h | h
    · rw [List.mem_takeWhile_imp h] at hc
      cases hc
    · exact h

/-- A cut is found again where it was made. -/
theorem takeWhile_dropWhile_append (hs : ∀ c ∈ s, p c = true)
    (ht : ∀ c, t.head? = some c → p c = false) :
    (s ++ t).takeWhile p = s ∧ (s ++ t).dropWhile p = t := by
  rw [List.takeWhile_append_of_pos hs, List.dropWhile_append_of_pos hs]
  cases t with
  | nil => simp
  | cons c t => simp [ht c rfl]

theorem head?_dropWhile (h : (s.dropWhile p).head? = some c) : p c = false := by
  have hnot := List.head?_dropWhile_not p s
  simpa [h] using hnot

theorem dropEnds_eq_nil_iff : dropEnds p s = [] ↔ ∀ c ∈ s, p c = true := by
  constructor
  · intro h c hc
    have hdrop : ∀ x ∈ s.dropWhile p, p x = true := by simpa [dropEnds, dropEnd] using h
    by_contra hne
    exact hne (hdrop c ((mem_dropWhile (by simpa using hne)).mpr hc))
  · intro h
    have hdrop : s.dropWhile p = [] := by simpa using h
    simp [dropEnds, dropEnd, hdrop]

theorem dropEnd_append (s : Text) (ht : ∀ c ∈ t, p c = true) :
    dropEnd p (s ++ t) = dropEnd p s := by
  have hrev : ∀ c ∈ t.reverse, p c = true := by simpa using ht
  rw [dropEnd, List.reverse_append, List.dropWhile_append_of_pos hrev, dropEnd]

theorem mem_dropEnd (hc : p c = false) : c ∈ dropEnd p s ↔ c ∈ s := by
  rw [dropEnd, List.mem_reverse, mem_dropWhile hc, List.mem_reverse]

theorem dropEnds_sublist (p : Char → Bool) (s : Text) : (dropEnds p s).Sublist s :=
  (List.rdropWhile_prefix p _).sublist.trans (List.dropWhile_sublist p)

theorem head?_dropEnd (h : dropEnd p s ≠ []) : (dropEnd p s).head? = s.head? := by
  obtain ⟨cut, hcut⟩ : dropEnd p s <+: s := List.rdropWhile_prefix p s
  conv_rhs => rw [← hcut]
  exact (List.head?_append_of_ne_nil _ h).symm

/-- What is stripped off one end passes the test throughout, and what is left ends in a character
that does not. -/
theorem dropEnd_eq_iff : dropEnd p s = t ↔
    ∃ cut, s = t ++ cut ∧ (∀ c ∈ cut, p c = true) ∧ ∀ c, t.getLast? = some c → p c = false := by
  constructor
  · rintro rfl
    refine ⟨s.rtakeWhile p, List.rdropWhile_append_rtakeWhile.symm, ?_, ?_⟩
    · exact fun c hc => List.mem_rtakeWhile_imp hc
    · intro c hc
      obtain ⟨hne, rfl⟩ := List.mem_getLast?_eq_getLast hc
      exact Bool.eq_false_iff.mpr (List.rdropWhile_last_not p s hne)
  · rintro ⟨cut, rfl, hcut, hlast⟩
    rw [dropEnd_append t hcut]
    exact List.rdropWhile_eq_self_iff.mpr fun hne => by
      simpa using hlast _ (List.getLast?_eq_some_getLast hne)

/-- Nothing is stripped off beyond a character that does not pass the test. -/
theorem dropWhile_append_cons (hc : p c = false) (s t : Text) :
    (s ++ c :: t).dropWhile p = s.dropWhile p ++ c :: t := by
  induction s with
  | nil => simp [hc]
  | cons x s ih =>
    by_cases hx : p x <;> simp [hx, ih]

theorem dropEnd_append_cons (hc : p c = false) (s t : Text) :
    dropEnd p (s ++ c :: t) = s ++ c :: dropEnd p t := by
  rw [dropEnd, List.reverse_append, List.reverse_cons, List.append_assoc, List.singleton_append,
    dropWhile_append_cons hc]
  simp [dropEnd]

theorem dropEnds_append_cons (hc : p c = false) (s t : Text) :
    dropEnds p (s ++ c :: t) = s.dropWhile p ++ c :: dropEnd p t := by
  rw [dropEnds, dropWhile_append_cons hc, dropEnd_append_cons hc]

theorem head?_dropEnds (h : (dropEnds p s).head? = some c) : p c = false := by
  have hne : dropEnd p (s.dropWhile p) ≠ [] := fun hnil => by simp [dropEnds, hnil] at h
  exact head?_dropWhile ((head?_dropEnd hne).symm.trans h)

theorem getLast?_dropEnds (h : (dropEnds p s).getLast? = some c) : p c = false := by
  obtain ⟨-, -, -, hlast⟩ := dropEnd_eq_iff.mp (rfl : dropEnds p s = _)
  exact hlast c h

theorem dropEnds_of_head? (h : ∀ c, s.head? = some c → p c = false) :
    dropEnds p s = dropEnd p s := by
  cases s with
  | nil => rfl
  | cons c s => simp [dropEnds, h c rfl]

theorem dropEnds_eq_self (hhead : ∀ c, s.head? = some c → p c = false)
    (hlast : ∀ c, s.getLast? = some c → p c = false) : dropEnds p s = s :=
  (dropEnds_of_head? hhead).trans (dropEnd_eq_iff.mpr ⟨[], (List.append_nil s).symm, nofun, hlast⟩)

/-- A text is stripped once and for all. -/
theorem dropEnds_dropEnds (p : Char → Bool) (s : Text) :
    dropEnds p (dropEnds p s) = dropEnds p s :=
  dropEnds_eq_self (fun _ => head?_dropEnds) fun _ => getLast?_dropEnds

/-- A map that leaves the test alone can come before or after stripping. -/
theorem dropEnd_map {f : Char → Char} (hf : ∀ c, p (f c) = p c) (s : Text) :
    dropEnd p (s.map f) = (dropEnd p s).map f := by
  have hcomp : p ∘ f = p := funext hf
  rw [dropEnd, ← List.map_reverse, List.dropWhile_map, hcomp, ← List.map_reverse, dropEnd]

theorem dropEnds_map {f : Char → Char} (hf : ∀ c, p (f c) = p c) (s : Text) :
    dropEnds p (s.map f) = (dropEnds p s).map f := by
  have hcomp : p ∘ f = p := funext hf
  rw [dropEnds, List.dropWhile_map, hcomp, dropEnd_map hf, dropEnds]

/-- A text that loses something to stripping has a character that passes the test. -/
theorem exists_mem_of_dropEnds_ne (h : dropEnds p s ≠ s) : ∃ c ∈ s, p c = true := by
  by_contra hnone
  simp only [not_exists, not_and] at hnone
  refine h (dropEnds_eq_self (fun c hc => ?_) fun c hc => ?_)
  · simpa using hnone c (List.mem_of_head? hc)
  · simpa using hnone c (List.mem_of_getLast? hc)

/-! ### Words -/

/-- The words of a text: parts without a blank, which end where the text does or a blank stands. -/
inductive Words : Text → List Text → Prop
  | nil {blanks : Text} (blank : ∀ c ∈ blanks, isBlank c = true) : Words blanks []
  | cons {blanks word rest : Text} {words : List Text} (blank : ∀ c ∈ blanks, isBlank c = true)
      (solid : ∀ c ∈ word, isBlank c = false) (nonempty : word ≠ [])
      (ends : ∀ c, rest.head? = some c → isBlank c = true) (tail : Words rest words) :
      Words (blanks ++ word ++ rest) (word :: words)

theorem Words.blank_cons {words : List Text} (hc : isBlank c = true) (h : Words s words) :
    Words (c :: s) words := by
  cases h with
  | nil blank => exact .nil (List.forall_mem_cons.mpr ⟨hc, blank⟩)
  | cons blank solid nonempty ends tail =>
    rw [List.append_assoc, ← List.cons_append, ← List.append_assoc]
    exact .cons (List.forall_mem_cons.mpr ⟨hc, blank⟩) solid nonempty ends tail

theorem Words.solid_append {word : Text} {words : List Text}
    (solid : ∀ c ∈ word, isBlank c = false) (nonempty : word ≠ [])
    (ends : ∀ c, s.head? = some c → isBlank c = true) (tail : Words s words) :
    Words (word ++ s) (word :: words) :=
  .cons (List.forall_mem_nil _) solid nonempty ends tail

/-- What has been read of a word makes one word with what is still to be read. -/
theorem words_wordsFrom {word : Text} (s : Text) (hword : ∀ c ∈ word, isBlank c = false) :
    Words (word ++ s) (wordsFrom word s) := by
  induction s generalizing word with
  | nil =>
    cases word with
    | nil => exact .nil (List.forall_mem_nil _)
    | cons d word => exact .solid_append hword (by simp) (by simp) (.nil (List.forall_mem_nil _))
  | cons c rest ih =>
    by_cases hc : isBlank c = true
    · have hrest : Words (c :: rest) (wordsFrom [] rest) :=
        .blank_cons hc (ih (List.forall_mem_nil _))
      cases word with
      | nil => simpa [wordsFrom, hc] using hrest
      | cons d word =>
        simp only [wordsFrom, hc, if_true]
        exact .solid_append hword (by simp) (by simpa using hc) hrest
    · have hc : isBlank c = false := by simpa using hc
      have hmore : ∀ x ∈ word ++ [c], isBlank x = false := by
        simpa [or_imp, forall_and, hc] using hword
      simpa [wordsFrom, hc] using ih hmore

theorem wordsFrom_append_blank {blanks : Text} (s : Text) (h : ∀ c ∈ blanks, isBlank c = true) :
    wordsFrom [] (blanks ++ s) = wordsFrom [] s := by
  induction blanks with
  | nil => rfl
  | cons c blanks ih =>
    obtain ⟨hc, h⟩ := List.forall_mem_cons.mp h
    simp [wordsFrom, hc, ih h]

theorem wordsFrom_append_solid {word solid : Text} (s : Text) (h : ∀ c ∈ solid, isBlank c = false) :
    wordsFrom word (solid ++ s) = wordsFrom (word ++ solid) s := by
  induction solid generalizing word with
  | nil => simp
  | cons c solid ih =>
    obtain ⟨hc, h⟩ := List.forall_mem_cons.mp h
    simp [wordsFrom, hc, ih h]

theorem wordsFrom_of_ends {word : Text} (hword : word ≠ [])
    (hends : ∀ c, s.head? = some c → isBlank c = true) :
    wordsFrom word s = word :: wordsFrom [] s := by
  cases s with
  | nil => simp [wordsFrom, hword]
  | cons c s => simp [wordsFrom, hends c rfl, hword]

theorem words_eq_iff {words : List Text} : Text.words s = words ↔ Words s words := by
  constructor
  · rintro rfl
    exact words_wordsFrom s fun _ hc => absurd hc List.not_mem_nil
  · intro h
    induction h with
    | nil blank => exact words_eq_nil_iff.mpr blank
    | @cons blanks word rest words blank solid nonempty ends tail ih =>
      calc wordsFrom [] (blanks ++ word ++ rest)
          = wordsFrom word rest := by
            rw [List.append_assoc, wordsFrom_append_blank _ blank, wordsFrom_append_solid _ solid,
              List.nil_append]
        _ = word :: Text.words rest := wordsFrom_of_ends nonempty ends
        _ = word :: words := by rw [ih]

end MailPolicy.Text
