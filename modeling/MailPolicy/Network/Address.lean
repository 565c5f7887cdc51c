/-
Internet addresses of both families and their text.

An address is a bit vector of 32 or 128 bits.  An IPv6 address in the mapped range stands for an IPv4
address, which `Ipv6.mapped?` gives back.

* `IpAddress.render` writes an address: four decimal numbers, or eight hexadecimal groups with the longest
  run of at least two zero groups (the first of several) written `::`;
* `Ipv4.ofOctets_octets` and `Ipv6.ofNibbles_nibbles` take an address apart and put it together again.
-/
import MailPolicy.Text.Basic

namespace MailPolicy

/-- An IPv4 address. -/
abbrev Ipv4 := BitVec 32

/-- An IPv6 address. -/
abbrev Ipv6 := BitVec 128

/-- An address of either family. -/
inductive IpAddress where
  | v4 (a : Ipv4)
  | v6 (a : Ipv6)
deriving DecidableEq, Repr

/-- The number whose digits in base `base` are given, the leading one first. -/
def ofPlaces (base : Nat) (ds : List Nat) : Nat := ds.foldl (fun n d => n * base + d) 0

/-- The lowest `count` digits of `n` in base `base`, the leading one first. -/
def places (base : Nat) : Nat → Nat → List Nat
  | 0, _ => []
  | count + 1, n => places base count (n / base) ++ [n % base]

theorem length_places (base count n : Nat) : (places base count n).length = count := by
  induction count generalizing n with
  | zero => rfl
  | succ count ih => simp [places, ih]

theorem ofPlaces_append (base : Nat) (ds : List Nat) (d : Nat) :
    ofPlaces base (ds ++ [d]) = ofPlaces base ds * base + d := by
  simp [ofPlaces]

/-- Digits put together again give the number modulo the power that they can hold. -/
theorem ofPlaces_places (base count n : Nat) : ofPlaces base (places base count n) = n % Nat.pow base count := by
  induction count generalizing n with
  | zero => simp [places, ofPlaces, Nat.mod_one]
  | succ count ih =>
    have e : Nat.pow base (count + 1) = base * Nat.pow base count := Nat.mul_comm ..
    rw [places, ofPlaces_append, ih, e, Nat.mod_mul, Nat.mul_comm, Nat.add_comm]

namespace Ipv4

/-- The four octets, the leading one first. -/
def octets (a : Ipv4) : List Nat := places 256 4 a.toNat

/-- The address with the given octets. -/
def ofOctets (ds : List Nat) : Ipv4 := BitVec.ofNat 32 (ofPlaces 256 ds)

theorem ofOctets_octets (a : Ipv4) : ofOctets a.octets = a := by
  rw [ofOctets, octets, ofPlaces_places, Nat.mod_eq_of_lt (by exact a.isLt), BitVec.ofNat_toNat]
  exact BitVec.setWidth_eq a

/-- The loopback address. -/
def localhost : Ipv4 := ofOctets [127, 0, 0, 1]

/-- Four decimal numbers with dots between them. -/
def render (a : Ipv4) : Text := List.intercalate ['.'] (a.octets.map Text.decimal)

end Ipv4

namespace Ipv6

/-- The thirty-two nibbles, the leading one first. -/
def nibbles (a : Ipv6) : List Nat := places 16 32 a.toNat

/-- The address with the given nibbles. -/
def ofNibbles (ds : List Nat) : Ipv6 := BitVec.ofNat 128 (ofPlaces 16 ds)

theorem ofNibbles_nibbles (a : Ipv6) : ofNibbles a.nibbles = a := by
  rw [ofNibbles, nibbles, ofPlaces_places, Nat.mod_eq_of_lt (by exact a.isLt), BitVec.ofNat_toNat]
  exact BitVec.setWidth_eq a

/-- The eight groups of sixteen bits, the leading one first. -/
def groups (a : Ipv6) : List Nat := places 65536 8 a.toNat

/-- The address with the given groups. -/
def ofGroups (ds : List Nat) : Ipv6 := BitVec.ofNat 128 (ofPlaces 65536 ds)

theorem ofGroups_groups (a : Ipv6) : ofGroups a.groups = a := by
  rw [ofGroups, groups, ofPlaces_places, Nat.mod_eq_of_lt (by exact a.isLt), BitVec.ofNat_toNat]
  exact BitVec.setWidth_eq a

/-- The loopback address. -/
def localhost : Ipv6 := 1

/-- The address in the mapped range that stands for an IPv4 address. -/
def ofMapped (a : Ipv4) : Ipv6 := BitVec.ofNat 128 (0xFFFF * 0x100000000 + a.toNat)

/-- The IPv4 address that an address in the mapped range stands for. -/
def mapped? (a : Ipv6) : Option Ipv4 :=
  if a.toNat / 0x100000000 = 0xFFFF then some (BitVec.ofNat 32 a.toNat) else none

theorem mapped?_ofMapped (a : Ipv4) : (ofMapped a).mapped? = some a := by
  have h : (0xFFFF * 0x100000000 + a.toNat) % 2 ^ 128 = 0xFFFF * 0x100000000 + a.toNat :=
    Nat.mod_eq_of_lt (by have := a.isLt; omega)
  have hd : (0xFFFF * 0x100000000 + a.toNat) / 0x100000000 = 0xFFFF := by have := a.isLt; omega
  have hm : (0xFFFF * 0x100000000 + a.toNat) % 0x100000000 = a.toNat := by have := a.isLt; omega
  simp only [mapped?, ofMapped, BitVec.toNat_ofNat, h, hd, if_true, Option.some.injEq]
  apply BitVec.eq_of_toNat_eq
  simp only [BitVec.toNat_ofNat, hm]

/-- Start and length of the longest run of zero groups from group `i` on, the first of several. -/
def longestZeros (i : Nat) : List Nat → Nat × Nat
  | [] => (i, 0)
  | g :: rest =>
    let here := (g :: rest).takeWhile (· == 0) |>.length
    let later := longestZeros (i + 1) rest
    if later.2 ≤ here then (i, here) else later

/-- Groups in hexadecimal digits with colons between them. -/
def renderGroups (gs : List Nat) : Text := List.intercalate [':'] (gs.map (Nat.toDigits 16))

/-- The text of an address; one in the mapped range shows the IPv4 address in its own form. -/
def render (a : Ipv6) : Text :=
  match a.mapped? with
  | some v4 => "::ffff:".toList ++ v4.render
  | none =>
    let gs := a.groups
    let (start, length) := longestZeros 0 gs
    if 1 < length then
      renderGroups (gs.take start) ++ [':', ':'] ++ renderGroups (gs.drop (start + length))
    else renderGroups gs

end Ipv6

/-- The text of an address. -/
def IpAddress.render : IpAddress → Text
  | .v4 a => a.render
  | .v6 a => a.render

end MailPolicy
