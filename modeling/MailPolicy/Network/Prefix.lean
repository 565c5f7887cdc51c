/-
Networks: an address and the number of leading bits that count.

* `Prefix.contains` compares exactly those bits (`contains_iff`);
* `Prefix.truncate` clears the others, which changes nothing about membership (`contains_truncate`);
* `Prefix.parseIpv4?` and `Prefix.parseIpv6?` read the form `address/length`.
-/
import MailPolicy.Network.AddressText

namespace MailPolicy

/-- A network of addresses of `w` bits: an address and how many of its leading bits count. -/
structure Prefix (w : Nat) where
  address : BitVec w
  length : Nat
  length_le : length ≤ w := by omega
deriving DecidableEq

namespace Prefix

variable {w : Nat}

/-- How many bits of an address are free. -/
def freeBits (p : Prefix w) : Nat := w - p.length

/-- Whether an address has the leading bits of the network. -/
def contains (p : Prefix w) (a : BitVec w) : Bool := a >>> p.freeBits == p.address >>> p.freeBits

/-- A network holds the addresses that have its leading bits, whatever the others are. -/
theorem contains_iff (p : Prefix w) (a : BitVec w) :
    p.contains a = true ↔ ∀ i < p.length, a.getMsbD i = p.address.getMsbD i := by
  have hle := p.length_le
  rw [contains, beq_iff_eq]
  constructor
  · intro h i hi
    have hbit := congrArg (fun v => v.getMsbD (p.freeBits + i)) h
    simp only [BitVec.getMsbD_ushiftRight] at hbit
    have hin : p.freeBits + i < w := by
      unfold freeBits
      omega
    have hlead : ¬ p.freeBits + i < p.freeBits := by omega
    simpa [hin, hlead] using hbit
  · intro h
    refine BitVec.eq_of_getMsbD_eq fun i hi => ?_
    rw [BitVec.getMsbD_ushiftRight, BitVec.getMsbD_ushiftRight]
    by_cases hfree : i < p.freeBits
    · simp [hfree]
    · have hlead : i - p.freeBits < p.length := by
        unfold freeBits at hfree ⊢
        omega
      rw [h _ hlead]

/-- The same network with the bits that do not count cleared. -/
def truncate (p : Prefix w) : Prefix w where
  address := p.address >>> p.freeBits <<< p.freeBits
  length := p.length
  length_le := p.length_le

@[simp] theorem length_truncate (p : Prefix w) : p.truncate.length = p.length := rfl

@[simp] theorem freeBits_truncate (p : Prefix w) : p.truncate.freeBits = p.freeBits := rfl

theorem shiftRight_truncate (p : Prefix w) :
    p.truncate.address >>> p.freeBits = p.address >>> p.freeBits := by
  apply BitVec.eq_of_getLsbD_eq
  intro i hi
  have : ¬p.freeBits + i < p.freeBits := by omega
  simp only [truncate, BitVec.getLsbD_ushiftRight, BitVec.getLsbD_shiftLeft, this]
  by_cases h : p.freeBits + i < w
  · simp [h]
  · simp [h, BitVec.getLsbD_of_ge p.address (p.freeBits + i) (by omega)]

/-- Clearing the bits that do not count leaves the members as they are. -/
theorem contains_truncate (p : Prefix w) (a : BitVec w) : p.truncate.contains a = p.contains a := by
  rw [contains, contains, freeBits_truncate, shiftRight_truncate]

/-- A network of length zero holds every address. -/
theorem contains_of_length_eq_zero {p : Prefix w} (h : p.length = 0) (a : BitVec w) :
    p.contains a = true := by
  have hf : w ≤ p.freeBits := by simp only [freeBits]; omega
  simp only [contains, BitVec.ushiftRight_eq_zero hf, beq_self_eq_true]

/-- A network of full length holds its own address alone. -/
theorem contains_iff_of_length_eq {p : Prefix w} (h : p.length = w) (a : BitVec w) :
    p.contains a = true ↔ a = p.address := by
  have hf : p.freeBits = 0 := by simp only [freeBits]; omega
  simp only [contains, hf, BitVec.ushiftRight_zero, beq_iff_eq]

/-- A network of the given length, unless the length is too great. -/
def make? (a : BitVec w) (length : Nat) : Option (Prefix w) :=
  if h : length ≤ w then some ⟨a, length, h⟩ else none

/-- Reads a slash, a length of at most `most` digits, and the end. -/
def finish? (most : Nat) : Option (BitVec w × Text) → Option (Prefix w)
  | some (a, s) => do
    let (length, rest) ← Text.number? 10 most (w + 1) true (← Text.expect? '/' s)
    if rest.isEmpty then make? a length else none
  | none => none

/-- Reads an IPv4 network, the length in one or two digits. -/
def parseIpv4? (s : Text) : Option (Prefix 32) := finish? 2 (AddressStyle.network.ipv4? s)

/-- Reads an IPv6 network, the length in one to three digits. -/
def parseIpv6? (s : Text) : Option (Prefix 128) := finish? 3 (AddressStyle.network.ipv6? s)

/-- The text of an IPv4 network. -/
def renderIpv4 (p : Prefix 32) : Text := Ipv4.render p.address ++ '/' :: Text.decimal p.length

end Prefix
end MailPolicy
