/-
Where an address ends.

No reader of addresses reads on across a slash: what stands behind one is left over, and does not
change how the text before it is read.  So an address with a length behind it is a network exactly
if the address is one by itself.

* `AddressStyle.StopsAtSlash` — the readers that a slash stops;
* `AddressStyle.stopsAtSlash_ipv4?`, `AddressStyle.stopsAtSlash_ipv6?` — addresses are read so;
* `Prefix.finish?_single` — the network of a single address.
-/
import MailPolicy.Network.Prefix

namespace MailPolicy

namespace AddressStyle

open Text

variable {α : Type}

/-- Whether a slash stops a reader, whatever stands behind it. -/
def StopsAtSlash (read : Text → Option (α × Text)) : Prop :=
  ∀ s behind, read (s ++ '/' :: behind) =
    (read s).map fun (a, rest) => (a, rest ++ '/' :: behind)

/-- What such a reader reads whole has no slash. -/
theorem StopsAtSlash.notMem {read : Text → Option (α × Text)} (h : StopsAtSlash read) {s : Text}
    {a : α} (hs : read s = some (a, [])) : '/' ∉ s := by
  intro hmem
  obtain ⟨front, behind, rfl⟩ := List.append_of_mem hmem
  rw [h front behind] at hs
  cases hfront : read front <;> simp [hfront] at hs

theorem takeWhile_slash (base : Nat) (s behind : Text) :
    (s ++ '/' :: behind).takeWhile (fun c => (digitValue? base c).isSome) =
      s.takeWhile fun c => (digitValue? base c).isSome := by
  induction s with
  | nil => rfl
  | cons c s ih => rw [List.cons_append, List.takeWhile_cons, List.takeWhile_cons, ih]

theorem stopsAtSlash_number? (base most bound : Nat) (leadingZeros : Bool) :
    StopsAtSlash (number? base most bound leadingZeros) := by
  intro s behind
  have hlength : (s.takeWhile fun c => (digitValue? base c).isSome).length ≤ s.length :=
    (List.takeWhile_sublist _).length_le
  simp only [number?, takeWhile_slash, List.drop_append_of_le_length hlength]
  split
  · rfl
  split
  · rfl
  split
  · split <;> rfl
  · rfl

theorem expect?_slash {c : Char} (hc : c ≠ '/') (s behind : Text) :
    expect? c (s ++ '/' :: behind) = (expect? c s).map (· ++ '/' :: behind) := by
  cases s with
  | nil => simp [expect?, hc.symm]
  | cons d s =>
    simp only [List.cons_append, expect?]
    split <;> rfl

theorem stopsAtSlash_octets? (style : AddressStyle) (count : Nat) :
    StopsAtSlash (style.octets? count) := by
  induction count with
  | zero => exact fun _ _ => rfl
  | succ count ih =>
    intro s behind
    simp only [octets?, stopsAtSlash_number? _ _ _ _ s behind]
    cases number? 10 3 256 style.leadingZeros s with
    | none => rfl
    | some read =>
      obtain ⟨n, rest⟩ := read
      by_cases hcount : count = 0
      · simp [hcount]
      simp only [Option.map_some, Option.bind_eq_bind, Option.bind_some, hcount, if_false,
        expect?_slash (c := '.') (by decide)]
      cases expect? '.' rest with
      | none => rfl
      | some rest =>
        simp only [Option.map_some, Option.bind_some, ih rest behind]
        cases style.octets? count rest <;> rfl

theorem stopsAtSlash_ipv4? (style : AddressStyle) : StopsAtSlash style.ipv4? := by
  intro s behind
  simp only [ipv4?, stopsAtSlash_octets? style 4 s behind, Option.map_map]
  rfl

/-- Groups are read as far as they go, and never across a slash. -/
theorem groups_slash (style : AddressStyle) (left : Nat) (first : Bool) (s behind : Text) :
    style.groups left first (s ++ '/' :: behind) =
      ((style.groups left first s).1, (style.groups left first s).2.1,
        (style.groups left first s).2.2 ++ '/' :: behind) := by
  induction left generalizing first s with
  | zero => rfl
  | succ left ih =>
    have hstart : (if first = true then some (s ++ '/' :: behind)
          else expect? ':' (s ++ '/' :: behind)) =
        (if first = true then some s else expect? ':' s).map (· ++ '/' :: behind) := by
      rw [expect?_slash (by decide)]
      split <;> rfl
    simp only [groups, hstart]
    cases (if first = true then some s else expect? ':' s) with
    | none => simp
    | some start =>
      simp only [Option.map_some, Option.bind_some, stopsAtSlash_ipv4? style start behind,
        stopsAtSlash_number? _ _ _ _ start behind]
      by_cases hleft : 0 < left
      · simp only [hleft, if_true]
        cases style.ipv4? start with
        | some read => rfl
        | none =>
          cases number? 16 4 65536 true start with
          | none => rfl
          | some read => simp [ih]
      · simp only [hleft, if_false]
        cases number? 16 4 65536 true start with
        | none => rfl
        | some read => simp [ih]

theorem stopsAtSlash_ipv6? (style : AddressStyle) : StopsAtSlash style.ipv6? := by
  intro s behind
  simp only [ipv6?, groups_slash]
  split
  · rfl
  split
  · rfl
  simp only [expect?_slash (c := ':') (by decide), Option.bind_eq_bind]
  cases expect? ':' (style.groups 8 true s).2.2 with
  | none => rfl
  | some rest =>
    simp only [Option.map_some, Option.bind_some, expect?_slash (c := ':') (by decide)]
    cases expect? ':' rest with
    | none => rfl
    | some rest => simp [groups_slash]

end AddressStyle

namespace Prefix

variable {w : Nat}

theorem finish?_slash_eq_none (most : Nat) (a : BitVec w) (c : Char) (rest digits : Text) :
    finish? most (some (a, c :: rest ++ '/' :: digits)) = none := by
  simp only [finish?, List.cons_append, Text.expect?, Option.bind_eq_bind]
  split
  · rw [Option.bind_some, AddressStyle.stopsAtSlash_number? 10 most (w + 1) true rest digits]
    cases Text.number? 10 most (w + 1) true rest <;> simp
  · rfl

/-- A network has its length behind a slash, so an address with a length behind it is read exactly
if the address is read whole. -/
theorem finish?_single {most : Nat} {read : Text → Option (BitVec w × Text)}
    (hread : AddressStyle.StopsAtSlash read) {digits : Text}
    (hdigits : Text.number? 10 most (w + 1) true digits = some (w, [])) {s : Text} {p : Prefix w} :
    finish? most (read (s ++ '/' :: digits)) = some p ↔
      ∃ a, read s = some (a, []) ∧ p = ⟨a, w, Nat.le_refl w⟩ := by
  rw [hread s digits]
  cases read s with
  | none => simp [finish?]
  | some result =>
    obtain ⟨a, rest⟩ := result
    cases rest with
    | nil =>
      have hfinish : finish? most (some (a, '/' :: digits)) = some ⟨a, w, Nat.le_refl w⟩ := by
        simp [finish?, Text.expect?, hdigits, make?]
      simp [hfinish, eq_comm]
    | cons c rest =>
      have hfinish : finish? most (some (a, c :: (rest ++ '/' :: digits))) = none :=
        finish?_slash_eq_none ..
      simp [hfinish]

end Prefix
end MailPolicy
