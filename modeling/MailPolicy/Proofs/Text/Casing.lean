/-
Characters without case, and lower case.

Blanks have no case, and neither have the three characters that a mail address is cut at: the dot, the at
sign and the closing bracket.  Lower case leaves them where they are and makes no others of them, so it
can be taken before a text is cut at them or afterwards.

* `Text.lowercaseRows_apart` — no row of the lower-case map moves such a character or moves anything to
  one;
* `Text.Still`, `Text.still_of_mem` — what that means for the map;
* `Text.Still.count_lower` — **a text has as many of them as its lower case**;
* `Text.Still.head?_lower_iff` — and begins with one if its lower case does;
* `Text.lowerAscii_lower` — lower case leaves no ASCII letter in upper case.
-/
import MailPolicy.Text.Blank
import MailPolicy.Text.Lowercase
import MailPolicy.Proofs.Text.Utf8

namespace MailPolicy.Text

variable {c d : Char} {s : Text} {n : Nat}

/-- The numbers of the blanks. -/
def blankNumbers : List Nat :=
  [9, 10, 11, 12, 13, 0x20, 0x85, 0xA0, 0x1680, 0x2000, 0x2001, 0x2002, 0x2003, 0x2004, 0x2005, 0x2006,
   0x2007, 0x2008, 0x2009, 0x200A, 0x2028, 0x2029, 0x202F, 0x205F, 0x3000]

theorem isBlank_iff (c : Char) : isBlank c = true ↔ c.toNat ∈ blankNumbers := by
  simp only [isBlank, blankNumbers, Bool.or_eq_true, Bool.and_eq_true, decide_eq_true_eq, beq_iff_eq,
    List.mem_cons, List.not_mem_nil, or_false]
  omega

/-- The numbers of the blanks, the dot, the closing bracket and the at sign. -/
def stillNumbers : List Nat := 0x2E :: 0x3E :: 0x40 :: blankNumbers

/-! ### The table -/

/-- No row of the lower-case map moves a character without case, or moves a character to one. -/
theorem lowercaseRows_apart : ∀ r ∈ lowercaseRows, ∀ n ∈ stillNumbers,
    r.covers n = false ∧ ¬(r.1 + r.2.2.2 ≤ (n : Int) ∧ (n : Int) ≤ r.2.1 + r.2.2.2) := by
  decide +kernel

/-- No row moves a character to an ASCII letter in upper case. -/
theorem lowercaseRows_lower : ∀ r ∈ lowercaseRows,
    ¬(r.1 + r.2.2.2 ≤ (90 : Int) ∧ (65 : Int) ≤ r.2.1 + r.2.2.2) := by
  decide +kernel

/-- A number is left alone, or a row that covers it moves it. -/
theorem lowerNat_cases (n : Nat) : lowerNat n = n ∨ ∃ r ∈ lowercaseRows, r.covers n = true ∧
    lowerNat n = r.move n ∧ r.1 ≤ n ∧ n ≤ r.2.1 := by
  unfold lowerNat
  split
  · rename_i r hfind
    have hcovers := List.find?_some hfind
    have hbetween : r.1 ≤ n ∧ n ≤ r.2.1 := by
      simp only [CaseRow.covers, Bool.and_eq_true, decide_eq_true_eq] at hcovers
      exact hcovers.1
    exact .inr ⟨r, List.mem_of_find?_eq_some hfind, hcovers, rfl, hbetween⟩
  · exact .inl rfl

theorem lowerNat_of_mem_stillNumbers (h : n ∈ stillNumbers) : lowerNat n = n := by
  rcases lowerNat_cases n with hn | ⟨r, hr, hcovers, -⟩
  · exact hn
  · rw [(lowercaseRows_apart r hr n h).1] at hcovers
    cases hcovers

theorem lowerNat_mem_stillNumbers_iff : lowerNat n ∈ stillNumbers ↔ n ∈ stillNumbers := by
  constructor
  · intro h
    rcases lowerNat_cases n with hn | ⟨r, hr, -, hmove, hfirst, hlast⟩
    · rwa [hn] at h
    · have hpos : ∀ m ∈ stillNumbers, 0 < m := by decide
      have hapart := (lowercaseRows_apart r hr _ h).2
      have := hpos _ h
      unfold CaseRow.move at hmove
      omega
  · intro h
    rwa [lowerNat_of_mem_stillNumbers h]

theorem not_upper_lowerNat (h : 128 ≤ n) : ¬(65 ≤ lowerNat n ∧ lowerNat n ≤ 90) := by
  rcases lowerNat_cases n with hn | ⟨r, hr, -, hmove, hfirst, hlast⟩
  · omega
  · have hlower := lowercaseRows_lower r hr
    unfold CaseRow.move at hmove
    omega

/-! ### Single characters -/

/-- A number that is none of a character gives the character zero. -/
theorem toNat_ofNat (n : Nat) : (Char.ofNat n).toNat = n ∨ (Char.ofNat n).toNat = 0 := by
  by_cases hvalid : n.isValidChar
  · exact .inl (Utf8.toNat_val_ofNat hvalid)
  · have hzero : Char.ofNat n = '\x00' := dif_neg hvalid
    rw [hzero]
    exact .inr rfl

theorem toNat_lowerAsciiChar (c : Char) : (lowerAsciiChar c).toNat =
    if 65 ≤ c.toNat ∧ c.toNat ≤ 90 then c.toNat + 32 else c.toNat := by
  have hupper : ('A' ≤ c ∧ c ≤ 'Z') ↔ 65 ≤ c.toNat ∧ c.toNat ≤ 90 := Iff.rfl
  unfold lowerAsciiChar
  simp only [hupper]
  split
  · exact Utf8.toNat_val_ofNat (.inl (by omega))
  · rfl

/-- A character without case: lower case leaves it alone and makes no other character into it. -/
structure Still (c : Char) : Prop where
  lowerAsciiChar_eq_iff (d : Char) : lowerAsciiChar d = c ↔ d = c
  lowerChar_eq : lowerChar c = [c]
  eq_of_mem_lowerChar (d : Char) : c ∈ lowerChar d → d = c
  ne_sigma : c ≠ '\u03A3' ∧ c ≠ '\u03C2' ∧ c ≠ '\u03C3'

theorem still_of_mem (h : c.toNat ∈ stillNumbers) : Still c := by
  have hplain : ∀ m ∈ stillNumbers, m ≠ 0 ∧ m ≠ 0x130 ∧ m ≠ 0x307 ∧ m ≠ 0x3A3 ∧ m ≠ 0x3C2 ∧ m ≠ 0x3C3 ∧
      ¬(65 ≤ m ∧ m ≤ 90) ∧ ¬(97 ≤ m ∧ m ≤ 122) := by decide
  obtain ⟨hzero, hdotted, hmark, hsigma, hfinal, hsmall, hupper, hlower⟩ := hplain _ h
  have hascii : ∀ d, lowerAsciiChar d = c ↔ d = c := by
    intro d
    rw [← Char.toNat_inj, ← Char.toNat_inj, toNat_lowerAsciiChar]
    split <;> omega
  have hne : ∀ x : Char, c.toNat ≠ x.toNat → c ≠ x := fun x hx hc => hx (congrArg Char.toNat hc)
  refine ⟨hascii, ?_, fun d hd => ?_, hne _ hsigma, hne _ hfinal, hne _ hsmall⟩
  · rw [lowerChar, (hascii c).mpr rfl, if_neg (hne '\u0130' hdotted),
      lowerNat_of_mem_stillNumbers h, Char.ofNat_toNat, ite_self]
  · unfold lowerChar at hd
    split at hd
    · exact (hascii d).mp (List.mem_singleton.mp hd).symm
    split at hd
    · simp only [List.mem_cons, List.not_mem_nil, or_false] at hd
      rcases hd with rfl | rfl
      · exact absurd (by decide) hlower
      · exact absurd rfl hmark
    · have hc := List.mem_singleton.mp hd
      have hnumber : c.toNat = lowerNat d.toNat := by
        rcases toNat_ofNat (lowerNat d.toNat) with hd | hd
        · rw [hc, hd]
        · exact absurd (hc ▸ hd) hzero
      rw [hnumber, lowerNat_mem_stillNumbers_iff] at h
      rw [lowerNat_of_mem_stillNumbers h] at hnumber
      exact (Char.toNat_inj.mp hnumber).symm

theorem still_of_isBlank (h : isBlank c = true) : Still c :=
  still_of_mem (List.mem_cons_of_mem _ (List.mem_cons_of_mem _ (List.mem_cons_of_mem _
    ((isBlank_iff c).mp h))))

theorem isBlank_lowerAsciiChar (c : Char) : isBlank (lowerAsciiChar c) = isBlank c := by
  rw [Bool.eq_iff_iff]
  constructor
  · intro h
    rwa [← ((still_of_isBlank h).lowerAsciiChar_eq_iff c).mp rfl] at h
  · intro h
    rwa [((still_of_isBlank h).lowerAsciiChar_eq_iff c).mpr rfl]

theorem still_dot : Still '.' := still_of_mem (by decide)

theorem still_at : Still '@' := still_of_mem (by decide)

theorem still_bracket : Still '>' := still_of_mem (by decide)

theorem lowerChar_ne_nil (c : Char) : lowerChar c ≠ [] := by
  unfold lowerChar
  split
  · exact List.cons_ne_nil _ _
  split <;> exact List.cons_ne_nil _ _

/-- Nothing that lower case makes of a character is an ASCII letter in upper case. -/
theorem lowerAsciiChar_of_mem_lowerChar (h : d ∈ lowerChar c) : lowerAsciiChar d = d := by
  have hupper : ¬(65 ≤ d.toNat ∧ d.toNat ≤ 90) := by
    unfold lowerChar at h
    split at h
    · rw [List.mem_singleton.mp h, toNat_lowerAsciiChar]
      split <;> omega
    split at h
    · simp only [List.mem_cons, List.not_mem_nil, or_false] at h
      rcases h with rfl | rfl <;> decide
    · have hlower := not_upper_lowerNat (n := c.toNat) (by omega)
      rw [List.mem_singleton.mp h]
      rcases toNat_ofNat (lowerNat c.toNat) with hc | hc <;> omega
  rw [← Char.toNat_inj, toNat_lowerAsciiChar, if_neg hupper]

/-! ### Texts -/

/-- What lower case makes of a character between two texts. -/
def lowerAt (before rest : Text) (c : Char) : Text :=
  if c = '\u03A3' then [lowerSigma before rest] else lowerChar c

theorem lowerFrom_cons (before rest : Text) (c : Char) :
    lowerFrom before (c :: rest) = lowerAt before rest c ++ lowerFrom (c :: before) rest := rfl

theorem lowerSigma_cases (before after : Text) :
    lowerSigma before after = '\u03C2' ∨ lowerSigma before after = '\u03C3' := by
  unfold lowerSigma
  split
  · exact .inl rfl
  · exact .inr rfl

theorem lowerAt_ne_nil (before rest : Text) (c : Char) : lowerAt before rest c ≠ [] := by
  unfold lowerAt
  split
  · exact List.cons_ne_nil _ _
  · exact lowerChar_ne_nil c

theorem lowerAsciiChar_of_mem_lowerAt {before rest : Text} (h : d ∈ lowerAt before rest c) :
    lowerAsciiChar d = d := by
  unfold lowerAt at h
  split at h
  · rw [List.mem_singleton.mp h]
    rcases lowerSigma_cases before rest with hform | hform <;> rw [hform] <;> rfl
  · exact lowerAsciiChar_of_mem_lowerChar h

namespace Still

theorem lowerAt_eq (h : Still c) (before rest : Text) : lowerAt before rest c = [c] := by
  rw [lowerAt, if_neg h.ne_sigma.1, h.lowerChar_eq]

theorem notMem_lowerAt (h : Still c) (hd : d ≠ c) (before rest : Text) :
    c ∉ lowerAt before rest d := by
  obtain ⟨-, hfinal, hsmall⟩ := h.ne_sigma
  unfold lowerAt
  split
  · rw [List.mem_singleton]
    rcases lowerSigma_cases before rest with hform | hform <;> rwa [hform]
  · exact fun hmem => hd (h.eq_of_mem_lowerChar d hmem)

/-- A text has as many of a character without case as its lower case. -/
theorem count_lower (h : Still c) (s : Text) : (lower s).count c = s.count c := by
  suffices hfrom : ∀ before, (lowerFrom before s).count c = s.count c from hfrom []
  induction s with
  | nil => exact fun _ => rfl
  | cons d rest ih =>
    intro before
    rw [lowerFrom_cons, List.count_append, ih, Nat.add_comm]
    by_cases hd : d = c
    · rw [hd, h.lowerAt_eq, List.count_singleton_self, List.count_cons_self]
    · rw [List.count_eq_zero.mpr (h.notMem_lowerAt hd before rest), List.count_cons_of_ne hd]
      rfl

theorem mem_lower_iff (h : Still c) : c ∈ lower s ↔ c ∈ s := by
  rw [← List.count_pos_iff, h.count_lower, List.count_pos_iff]

theorem count_lowerAscii (h : Still c) (s : Text) : (lowerAscii s).count c = s.count c := by
  induction s with
  | nil => rfl
  | cons d s ih =>
    rw [lowerAscii_cons, List.count_cons, List.count_cons, ih]
    simp only [beq_iff_eq, h.lowerAsciiChar_eq_iff]

theorem mem_lowerAscii_iff (h : Still c) : c ∈ lowerAscii s ↔ c ∈ s := by
  rw [← List.count_pos_iff, h.count_lowerAscii, List.count_pos_iff]

/-- A text is made of a character without case alone if its lower case is. -/
theorem forall_lower_eq_iff (h : Still c) : (∀ x ∈ lower s, x = c) ↔ ∀ x ∈ s, x = c := by
  suffices hfrom : ∀ before, (∀ x ∈ lowerFrom before s, x = c) ↔ ∀ x ∈ s, x = c from hfrom []
  induction s with
  | nil => exact fun _ => Iff.rfl
  | cons d rest ih =>
    intro before
    rw [lowerFrom_cons, List.forall_mem_append, List.forall_mem_cons, ih]
    refine and_congr_left fun _ => ⟨fun hall => ?_, fun hd => ?_⟩
    · refine Decidable.byContradiction fun hd => ?_
      obtain ⟨x, hx⟩ := List.exists_mem_of_ne_nil _ (lowerAt_ne_nil before rest d)
      exact h.notMem_lowerAt hd before rest (hall x hx ▸ hx)
    · rw [hd, h.lowerAt_eq]
      exact fun x hx => List.mem_singleton.mp hx

/-- A text begins with a character without case if its lower case does. -/
theorem head?_lower_iff (h : Still c) : (lower s).head? = some c ↔ s.head? = some c := by
  cases s with
  | nil => exact Iff.rfl
  | cons d rest =>
    obtain ⟨x, more, hat⟩ := List.exists_cons_of_ne_nil (lowerAt_ne_nil [] rest d)
    have hhead : (lower (d :: rest)).head? = some x := by
      rw [lower, lowerFrom_cons, hat]
      rfl
    rw [hhead, List.head?_cons, Option.some.injEq, Option.some.injEq]
    by_cases hd : d = c
    · rw [hd, h.lowerAt_eq] at hat
      exact iff_of_true (List.cons.inj hat).1.symm hd
    · refine iff_of_false (fun hx => h.notMem_lowerAt hd [] rest ?_) hd
      rw [hat, hx]
      exact List.mem_cons_self

end Still

/-- Lower case leaves no ASCII letter in upper case. -/
theorem lowerAscii_lower (s : Text) : lowerAscii (lower s) = lower s := by
  have hfrom : ∀ before, ∀ d ∈ lowerFrom before s, lowerAsciiChar d = d := by
    induction s with
    | nil => exact fun _ _ hd => absurd hd List.not_mem_nil
    | cons c rest ih =>
      intro before d hd
      rw [lowerFrom_cons, List.mem_append] at hd
      rcases hd with hd | hd
      · exact lowerAsciiChar_of_mem_lowerAt hd
      · exact ih _ d hd
  exact (List.map_congr_left (hfrom [])).trans (List.map_id _)

/-- Lower case keeps the blanks of a text and makes no others. -/
theorem mem_lower_iff_of_isBlank (h : isBlank c = true) : c ∈ lower s ↔ c ∈ s :=
  (still_of_isBlank h).mem_lower_iff

/-- A text has no blank exactly if its lower case has none. -/
theorem forall_lower_isBlank_iff :
    (∀ c ∈ lower s, isBlank c = false) ↔ ∀ c ∈ s, isBlank c = false := by
  have hiff : (∃ c ∈ lower s, isBlank c = true) ↔ ∃ c ∈ s, isBlank c = true :=
    exists_congr fun c => and_congr_left fun hc => mem_lower_iff_of_isBlank hc
  simpa only [not_exists, not_and, Bool.not_eq_true] using not_congr hiff

end MailPolicy.Text
