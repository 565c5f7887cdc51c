/-
What lists of addresses are asked for.

The name is the address of the client from its last part to its first, a dot, the zone and a dot.  An
IPv4 address has four parts and an IPv6 address thirty-two, so that neither is taken for the other, and
a mapped address is asked for as the IPv4 address that it stands for.

* `IpAddress.ofKey?` reads the parts of an address off the labels of a text, from right to left;
* `IpAddress.ofKey?_reversed` — the labels in front of the zone give back the address;
* `BlockList.query?_address_eq_iff` — **two clients have one name only if they have one address**.
-/
import Mathlib.Data.List.Basic
import MailPolicy.Proofs.Check.Build
import MailPolicy.Proofs.Dns.Labels
import MailPolicy.Proofs.Text.Digits

namespace MailPolicy

/-! ### Parts of an address -/

section
variable {base count n d : Nat}

theorem lt_of_mem_places (hbase : 0 < base) (hd : d ∈ places base count n) : d < base := by
  induction count generalizing n with
  | zero => cases hd
  | succ count ih =>
    rcases List.mem_append.mp hd with hd | hd
    · exact ih hd
    · rw [List.mem_singleton.mp hd]
      exact Nat.mod_lt n hbase

/-- What is written part by part is read part by part. -/
theorem mapM_map_eq_some {α β : Type} {read : β → Option α} {write : α → β} {l : List α}
    (h : ∀ x ∈ l, read (write x) = some x) : (l.map write).mapM read = some l := by
  induction l with
  | nil => rfl
  | cons x l ih =>
    obtain ⟨hx, hl⟩ := List.forall_mem_cons.mp h
    rw [List.map_cons, List.mapM_cons, hx, ih hl]
    rfl

end

namespace IpAddress

/-- An octet in decimal digits. -/
def octetOf? (label : Text) : Option Nat :=
  if label = [] then none else (Text.ofDigits 10 label).filter (· < 256)

/-- A nibble in one hexadecimal digit. -/
def nibbleOf? (label : Text) : Option Nat :=
  if label.length = 1 then Text.ofDigits 16 label else none

/-- The address that the labels of a text give from right to left: four octets or thirty-two
nibbles. -/
def ofKey? (key : Text) : Option IpAddress :=
  let labels := (Dns.parts key).reverse
  if labels.length = 4 then (labels.mapM octetOf?).map fun ds => .v4 (Ipv4.ofOctets ds)
  else if labels.length = 32 then (labels.mapM nibbleOf?).map fun ds => .v6 (Ipv6.ofNibbles ds)
  else none

/-- The IPv4 address that a mapped address stands for; any other address is its own. -/
def unmapped : IpAddress → IpAddress
  | v4 a => v4 a
  | v6 a =>
    match a.mapped? with
    | some x => v4 x
    | none => v6 a

theorem reversed_unmapped (a : IpAddress) : a.unmapped.reversed = a.reversed := by
  cases a with
  | v4 a => rfl
  | v6 a =>
    unfold unmapped
    cases hmapped : a.mapped? <;> simp [reversed, hmapped]

theorem octetOf?_decimal {d : Nat} (hd : d < 256) : octetOf? (Text.decimal d) = some d := by
  rw [octetOf?, Text.decimal, if_neg Nat.toDigits_ne_nil,
    Text.ofDigits_toDigits (by decide) (by decide)]
  simp [hd]

theorem nibbleOf?_toDigits {d : Nat} (hd : d < 16) : nibbleOf? (Nat.toDigits 16 d) = some d := by
  have hone : (Nat.toDigits 16 d).length = 1 := by rw [Nat.toDigits_of_lt_base hd]; rfl
  rw [nibbleOf?, if_pos hone, Text.ofDigits_toDigits (by decide) (by decide)]

theorem dot_notMem_toDigits {base n : Nat} (htwo : 2 ≤ base) (hbase : base ≤ 16) :
    '.' ∉ Nat.toDigits base n := by
  intro hdot
  have hdigit := Text.isSome_digitValue?_of_mem_toDigits htwo hbase hdot
  simp [Text.digitValue?] at hdigit

/-- The labels of numbers that are written from last to first. -/
theorem reverse_parts_intercalate {base : Nat} (htwo : 2 ≤ base) (hbase : base ≤ 16) {ds : List Nat}
    (hne : ds ≠ []) :
    (Dns.parts (List.intercalate ['.'] (ds.reverse.map (Nat.toDigits base)))).reverse =
      ds.map (Nat.toDigits base) := by
  rw [Dns.parts_intercalate (by simpa using hne), ← List.map_reverse, List.reverse_reverse]
  intro label hlabel
  obtain ⟨d, -, rfl⟩ := List.mem_map.mp hlabel
  exact dot_notMem_toDigits htwo hbase

theorem ofKey?_reversedIpv4 (a : Ipv4) : ofKey? (reversedIpv4 a) = some (v4 a) := by
  have hlength : a.octets.length = 4 := length_places 256 4 a.toNat
  have hlabels : (Dns.parts (reversedIpv4 a)).reverse = a.octets.map Text.decimal :=
    reverse_parts_intercalate (by decide) (by decide) (List.ne_nil_of_length_pos (by omega))
  have hread : (a.octets.map Text.decimal).mapM octetOf? = some a.octets :=
    mapM_map_eq_some fun d hd => octetOf?_decimal (lt_of_mem_places (by decide) hd)
  simp only [ofKey?, hlabels, List.length_map, hlength, if_true, hread, Option.map_some,
    Ipv4.ofOctets_octets]

theorem ofKey?_reversedIpv6 (a : Ipv6) : ofKey? (reversedIpv6 a) = some (v6 a) := by
  have hlength : a.nibbles.length = 32 := length_places 16 32 a.toNat
  have hlabels : (Dns.parts (reversedIpv6 a)).reverse = a.nibbles.map (Nat.toDigits 16) :=
    reverse_parts_intercalate (by decide) (by decide) (List.ne_nil_of_length_pos (by omega))
  have hread : (a.nibbles.map (Nat.toDigits 16)).mapM nibbleOf? = some a.nibbles :=
    mapM_map_eq_some fun d hd => nibbleOf?_toDigits (lt_of_mem_places (by decide) hd)
  simp only [ofKey?, hlabels, List.length_map, hlength, if_true, hread, Option.map_some,
    Ipv6.ofNibbles_nibbles, Nat.reduceEqDiff, if_false]

/-- The labels in front of the zone give back the address. -/
theorem ofKey?_reversed (a : IpAddress) : ofKey? a.reversed = some a.unmapped := by
  cases a with
  | v4 a => exact ofKey?_reversedIpv4 a
  | v6 a =>
    cases hmapped : a.mapped? with
    | none => simpa only [reversed, unmapped, hmapped] using ofKey?_reversedIpv6 a
    | some x => simpa only [reversed, unmapped, hmapped] using ofKey?_reversedIpv4 x

theorem reversed_eq_iff {a b : IpAddress} : a.reversed = b.reversed ↔ a.unmapped = b.unmapped := by
  constructor
  · intro h
    have hread := ofKey?_reversed a
    rw [h, ofKey?_reversed] at hread
    exact (Option.some.inj hread).symm
  · intro h
    rw [← reversed_unmapped a, h, reversed_unmapped]

end IpAddress

namespace BlockList

variable {s : BlockListSettings} {c : BlockList} {target : BlockTarget} {r r' : Request}
  {a b : IpAddress}

theorem query?_address (hbuild : build target s = .ok c) (ha : r.clientAddress? = some a) :
    BlockTarget.address.query? c.zone r = some (a.reversed ++ '.' :: c.zone ++ ['.']) := by
  rw [BlockTarget.query?, BlockTarget.key?, ha, dropEnds_zone hbuild]
  rfl

/-- **Two clients have one name only if they have one address.**  The name that a list of addresses is
asked for is a key, a dot, the zone and one dot at the end, for the zone has none at its ends.  The labels
of the key from right to left give back the address, with a mapped address taken for the IPv4 address
that it stands for. -/
theorem query?_address_eq_iff (hbuild : build target s = .ok c) (ha : r.clientAddress? = some a)
    (hb : r'.clientAddress? = some b) :
    (BlockTarget.address.query? c.zone r = BlockTarget.address.query? c.zone r' ↔
      a.unmapped = b.unmapped) ∧
    ∃ key, BlockTarget.address.query? c.zone r = some (key ++ '.' :: c.zone ++ ['.']) ∧
      IpAddress.ofKey? key = some a.unmapped ∧
      c.zone ≠ [] ∧ c.zone.head? ≠ some '.' ∧ c.zone.getLast? ≠ some '.' := by
  have hquery := query?_address hbuild ha
  have hzone : c.zone ≠ [] := by
    obtain ⟨hne, -, table, -, rfl⟩ := build_eq_ok_iff.mp hbuild
    exact hne
  constructor
  · rw [hquery, query?_address hbuild hb, ← IpAddress.reversed_eq_iff]
    simp only [Option.some.injEq, List.append_cancel_right_eq]
  · exact ⟨a.reversed, hquery, IpAddress.ofKey?_reversed a, hzone, head?_zone hbuild,
      getLast?_zone hbuild⟩

/-- A client with an IPv4 address, and the same client with its mapped address; the zone has capitals
and dots at its ends. -/
theorem query?_address_eq_mapped :
    let r := Request.empty.insert "client_address".toList "192.0.2.1".toList
    let r' := Request.empty.insert "client_address".toList "::ffff:c000:201".toList
    let a : Ipv4 := Ipv4.ofOctets [192, 0, 2, 1]
    r.clientAddress? = some (.v4 a) ∧ r'.clientAddress? = some (.v6 (Ipv6.ofMapped a)) ∧
      ∃ c, build .address ⟨".Zen.Example.".toList, ".Zen.Example.".toList, none, some 1, [], none⟩ = .ok c ∧
        BlockTarget.address.query? c.zone r = BlockTarget.address.query? c.zone r' := by
  intro r r' a
  have ha : r.clientAddress? = some (.v4 a) := by decide +kernel
  have hb : r'.clientAddress? = some (.v6 (Ipv6.ofMapped a)) := by decide +kernel
  obtain ⟨c, hbuild, -, -⟩ := exists_build_of_zone .address ".Zen.Example.".toList 1
    (by decide) (by decide) (by decide +kernel)
  have hsame : (IpAddress.v4 a).unmapped = (IpAddress.v6 (Ipv6.ofMapped a)).unmapped := by
    rw [IpAddress.unmapped, IpAddress.unmapped, Ipv6.mapped?_ofMapped]
  exact ⟨ha, hb, c, hbuild, (query?_address_eq_iff hbuild ha hb).1.mpr hsame⟩

end BlockList
end MailPolicy
