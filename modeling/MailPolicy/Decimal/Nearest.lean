/-
The double nearest to a decimal.

A positive fraction is scaled to the grid of doubles around it and rounded there, a half to the even
neighbour.  The bits of a double count the doubles from zero on, so a carry out of the mantissa is right
without further ado, and whatever is rounded beyond the greatest finite double is infinite.

* `Binary.bitsOfRatio` is the rounding, on natural numbers;
* `Decimal.nearest` reads digits and an exponent.
-/
import MailPolicy.Decimal.Shortest

namespace MailPolicy

/-- The integer nearest to `num / den`, the even one of two. -/
def roundHalfEven (num den : Nat) : Nat :=
  let down := num / den
  let twice := 2 * (num % den)
  if twice < den ∨ (twice = den ∧ down % 2 = 0) then down else down + 1

theorem roundHalfEven_bounds {num den : Nat} (h : 0 < den) :
    2 * num ≤ 2 * den * roundHalfEven num den + den ∧ 2 * den * roundHalfEven num den ≤ 2 * num + den := by
  have hd := Nat.div_add_mod num den
  have hm := Nat.mod_lt num h
  unfold roundHalfEven
  generalize num / den = q at *
  generalize num % den = r at *
  subst hd
  simp only
  split
  · have e := Nat.mul_assoc 2 den q
    constructor <;> omega
  · rename_i hc
    have e : 2 * den * (q + 1) = 2 * (den * q) + 2 * den := by rw [Nat.mul_add, Nat.mul_assoc]; omega
    have : den ≤ 2 * r := by omega
    constructor <;> omega

/-- The bits of positive infinity. -/
def Binary.infinityBits : Nat := 2047 * hiddenBit

/-- The bit that makes a double negative. -/
def Binary.signBit : Nat := 0x8000000000000000

/-- The bits of the double nearest to `num / den`. -/
def Binary.bitsOfRatio (num den : Nat) : Nat :=
  let units := num <<< 1074
  let shift := Nat.log2 (units / den) - 52
  min (shift * hiddenBit + roundHalfEven units (den <<< shift)) infinityBits

namespace Decimal

/-- A power of ten from which on no digit is lost in rounding to infinity or, as a negative power, to zero. -/
def farExponent : Nat := 400

/-- The magnitude of the double nearest to `digits * 10 ^ exponent`, in bits. -/
def nearestBits (digits : Nat) (exponent : Int) : Nat :=
  if digits = 0 then 0
  else if (farExponent : Int) < exponent then Binary.infinityBits
  else if exponent + (Text.decimal digits).length < -(farExponent : Int) then 0
  else if 0 ≤ exponent then Binary.bitsOfRatio (digits * Nat.pow 10 exponent.toNat) 1
  else Binary.bitsOfRatio digits (Nat.pow 10 (-exponent).toNat)

/-- The double nearest to `digits * 10 ^ exponent`, or to its negative. -/
def nearest (negative : Bool) (digits : Nat) (exponent : Int) : Float :=
  Float.ofBits (UInt64.ofNat (nearestBits digits exponent + if negative then Binary.signBit else 0))

end Decimal
end MailPolicy
