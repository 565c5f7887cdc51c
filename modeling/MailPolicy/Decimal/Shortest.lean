/-
The shortest decimal that reads back as a given double.

A positive finite double is `mantissa * 2 ^ exponent`.  The reals that round to it form an interval, its
ends included exactly when the mantissa is even.  Among the decimals `d * 10 ^ k` in that interval the one
with the greatest `k` has the fewest digits; of two such the nearer is taken, and of two equally near the
greater.  All of it is arithmetic on natural numbers.

* `Binary.ofBits` splits the bits of a double;
* `Binary.shortest` finds the digits;
* `Decimal.render` writes a double without an exponent, `9`, `0.25`, `100000000000000000000000`.
-/
import MailPolicy.Text.Basic

namespace MailPolicy

/-- The magnitude of a finite double: `mantissa * 2 ^ (shift - 1074)`. -/
structure Binary where
  mantissa : Nat
  shift : Nat
deriving DecidableEq, Repr

namespace Binary

/-- The mantissa from which on a double has its full precision. -/
def hiddenBit : Nat := 0x10000000000000

/-- The magnitude that the bits of a finite double stand for. -/
def ofBits (bits : UInt64) : Binary :=
  let exponent := (bits.toNat >>> 52) % 2048
  let fraction := bits.toNat % hiddenBit
  if exponent = 0 then ⟨fraction, 0⟩ else ⟨fraction + hiddenBit, exponent - 1⟩

/-- Whether the next smaller double is only half as far away as the next greater one. -/
def isPowerStep (b : Binary) : Bool := b.mantissa == hiddenBit && 0 < b.shift

/-- Four times the value in units of `2 ^ -1074`. -/
def four (b : Binary) : Nat := (4 * b.mantissa) <<< b.shift

/-- Four times the lower end of the interval of reals that round to the value. -/
def fourLow (b : Binary) : Nat := b.four - (if b.isPowerStep then 1 else 2) <<< b.shift

/-- Four times the upper end of the interval of reals that round to the value. -/
def fourHigh (b : Binary) : Nat := b.four + 2 <<< b.shift

/-- Whether the real `num / den`, in quarters of the unit, lies in the interval. -/
def admits (b : Binary) (num den : Nat) : Bool :=
  if b.mantissa % 2 == 0 then b.fourLow * den ≤ num && num ≤ b.fourHigh * den
  else b.fourLow * den < num && num < b.fourHigh * den

/-- The grid of multiples of `10 ^ (place - 330)` in quarters of the unit, as a fraction. -/
def grid (place : Nat) : Nat × Nat := (Nat.pow 10 place <<< 1076, Nat.pow 10 330)

/-- The multiple of the grid that the interval holds, the nearer one if it holds both neighbours. -/
def onGrid? (b : Binary) (place : Nat) : Option Nat :=
  let (num, den) := grid place
  let down := b.four * den / num
  let up := down + 1
  match 0 < down && b.admits (down * num) den, b.admits (up * num) den with
  | true, true => if b.four * den - down * num < up * num - b.four * den then some down else some up
  | true, false => some down
  | false, true => some up
  | false, false => none

/-- The first grid, from the coarsest below `place` on, that the interval meets. -/
def search (b : Binary) : Nat → Nat × Nat
  | 0 => (0, 0)
  | place + 1 =>
    match b.onGrid? place with
    | some digits => (digits, place)
    | none => b.search place

/-- The shortest digits `d` of a positive magnitude and the `place` with value `d * 10 ^ (place - 330)`. -/
def shortest (b : Binary) : Nat × Nat := b.search 640

end Binary

namespace Decimal

/-- Digits of a number, with zeros in front up to the given count. -/
def padded (count n : Nat) : Text :=
  let ds := Text.decimal n
  List.replicate (count - ds.length) '0' ++ ds

/-- The number `digits * 10 ^ (place - 330)` written without an exponent. -/
def positional (digits place : Nat) : Text :=
  if 330 ≤ place then Text.decimal digits ++ List.replicate (if digits = 0 then 0 else place - 330) '0'
  else
    let scale := 330 - place
    Text.decimal (digits / Nat.pow 10 scale) ++ '.' :: padded scale (digits % Nat.pow 10 scale)

/-- The shortest text of a finite double, without an exponent and with its sign. -/
def render (x : Float) : Text :=
  let bits := x.toBits
  let b := Binary.ofBits bits
  let magnitude :=
    if b.mantissa = 0 then ['0']
    else
      let (digits, place) := b.shortest
      positional digits place
  if bits.toNat >>> 63 = 1 then '-' :: magnitude else magnitude

end Decimal
end MailPolicy
