/-
Numbers in digits and back.

* `Text.ofDigits_toDigits` — **the digits of a number are read as that number**;
* `Text.isSome_digitValue?_of_mem_toDigits` — and nothing but digits is written.
-/
import MailPolicy.Text.Basic

namespace MailPolicy.Text

variable {base n : Nat} {c : Char}

theorem digitValue?_digitChar {d : Nat} (hd : d < base) (hbase : base ≤ 16) :
    digitValue? base (Nat.digitChar d) = some d := by
  have hall : ∀ b ∈ List.range 17, ∀ d ∈ List.range b,
      digitValue? b (Nat.digitChar d) = some d := by decide
  exact hall base (by simp only [List.mem_range]; omega) d (List.mem_range.mpr hd)

theorem ofDigits_concat (base : Nat) (s : Text) (c : Char) :
    ofDigits base (s ++ [c]) =
      (ofDigits base s).bind fun n => (digitValue? base c).map fun d => n * base + d := by
  rw [ofDigits, List.foldl_append]
  cases hs : ofDigits base s <;> cases hc : digitValue? base c <;> simp_all [ofDigits]

/-- The digits of a number are read as that number. -/
theorem ofDigits_toDigits (htwo : 2 ≤ base) (hbase : base ≤ 16) (n : Nat) :
    ofDigits base (Nat.toDigits base n) = some n := by
  -- The last digit is the remainder, and the digits before it write the quotient.
  induction n using Nat.strongRecOn with
  | ind n ih =>
    rw [Nat.toDigits_eq_if htwo]
    split
    · rename_i hlt
      have hvalue := digitValue?_digitChar hlt hbase
      simp [ofDigits, hvalue]
    · have hquotient := ih (n / base) (Nat.div_lt_self (by omega) (by omega))
      have hvalue := digitValue?_digitChar (Nat.mod_lt n (by omega)) hbase
      rw [ofDigits_concat, hquotient, hvalue]
      simp only [Option.map_some, Option.bind_some, Option.some.injEq]
      exact Nat.div_add_mod' n base

/-- A number is written in nothing but digits. -/
theorem isSome_digitValue?_of_mem_toDigits (htwo : 2 ≤ base) (hbase : base ≤ 16)
    (hc : c ∈ Nat.toDigits base n) : (digitValue? base c).isSome = true := by
  induction n using Nat.strongRecOn with
  | ind n ih =>
    rw [Nat.toDigits_eq_if htwo] at hc
    split at hc
    · rename_i hlt
      rw [List.mem_singleton.mp hc, digitValue?_digitChar hlt hbase]
      rfl
    · rcases List.mem_append.mp hc with hc | hc
      · exact ih (n / base) (Nat.div_lt_self (by omega) (by omega)) hc
      · rw [List.mem_singleton.mp hc, digitValue?_digitChar (Nat.mod_lt n (by omega)) hbase]
        rfl

end MailPolicy.Text
