/-
What building a check comes to.

* `BlockList.build_eq_ok_iff` — when a reputation list is built, and from what;
* `BlockList.dropEnds_zone` — its zone has no dots at its ends;
* `BlockList.make_spec` — what a reputation list is asked for, and its table;
* `Check.kind_of_build` — a check has the kind of its settings;
* `Check.memory_of_build` — a check in the background starts without failures.
-/
import MailPolicy.Check.Basic
import MailPolicy.Proofs.Check.WeightRows
import MailPolicy.Proofs.Text.Casing
import MailPolicy.Proofs.Text.Cuts

namespace MailPolicy

theorem exists_of_map_eq_ok {ε α β : Type} {f : α → β} {x : Except ε α} {y : β}
    (h : x.map f = .ok y) :
    ∃ v, x = .ok v ∧ f v = y := by
  cases x with
  | error e => cases h
  | ok v => exact ⟨v, rfl, Except.ok.inj h⟩

namespace BlockList

variable {s : BlockListSettings} {c : BlockList}

/-- A list is built if its zone has something in it and no blank, and its table can be made. -/
theorem build_eq_ok_iff {target : BlockTarget} : build target s = .ok c ↔
    zoneOf s.zone ≠ [] ∧ (∀ x ∈ zoneOf s.zone, Text.isBlank x = false) ∧
      ∃ table, WeightTable.make s.weights s.weight = .ok table ∧
        ⟨s.name, zoneOf s.zone, target, table⟩ = c := by
  have hzone : ((zoneOf s.zone).isEmpty || (zoneOf s.zone).any Text.isBlank) = false ↔
      zoneOf s.zone ≠ [] ∧ ∀ x ∈ zoneOf s.zone, Text.isBlank x = false := by
    simp [Bool.or_eq_false_iff, List.isEmpty_eq_false_iff]
  rw [← and_assoc, ← hzone]
  unfold build
  dsimp only
  cases hbad : ((zoneOf s.zone).isEmpty || (zoneOf s.zone).any Text.isBlank) with
  | true => simp [throw, throwThe, MonadExceptOf.throw, bind, Except.bind]
  | false =>
    cases htable : WeightTable.make s.weights s.weight <;>
      simp [bind, Except.bind, pure, Except.pure]

theorem build_spec {target : BlockTarget} (h : build target s = .ok c) :
    c.target = target ∧ WeightTable.make s.weights s.weight = .ok c.table := by
  obtain ⟨-, -, table, htable, rfl⟩ := build_eq_ok_iff.mp h
  exact ⟨rfl, htable⟩

/-- A zone alone makes a list, if all answers have a weight. -/
theorem exists_build_of_zone (target : BlockTarget) (zone : Text) (w : Float)
    (hne : zoneOf zone ≠ []) (hsolid : (zoneOf zone).any Text.isBlank = false)
    (hw : w.isFinite = true) :
    ∃ c, build target ⟨zone, zone, none, some w, [], none⟩ = .ok c ∧ c.zone = zoneOf zone ∧
      c.target = target := by
  have haccepted : WeightTable.Accepted [] (some w) :=
    { readable := nofun, finite := by simpa using hw, nonempty := .inr (List.cons_ne_nil _ _) }
  have htable := WeightTable.make_eq_ok_iff.mpr ⟨haccepted, rfl⟩
  exact ⟨_, build_eq_ok_iff.mpr ⟨hne, by simpa using hsolid, _, htable, rfl⟩, rfl, rfl⟩

theorem isDot_lowerAsciiChar (x : Char) :
    BlockTarget.isDot (Text.lowerAsciiChar x) = BlockTarget.isDot x := by
  rw [Bool.eq_iff_iff]
  simp [BlockTarget.isDot, Text.still_dot.lowerAsciiChar_eq_iff]

/-- The zone of a list has been stripped of dots. -/
theorem dropEnds_zone {target : BlockTarget} (h : build target s = .ok c) :
    Text.dropEnds BlockTarget.isDot c.zone = c.zone := by
  obtain ⟨-, -, table, -, rfl⟩ := build_eq_ok_iff.mp h
  have hmap := Text.dropEnds_map isDot_lowerAsciiChar
    (Text.dropEnds BlockTarget.isDot (Text.trim s.zone))
  rw [Text.dropEnds_dropEnds] at hmap
  exact hmap

theorem head?_zone {target : BlockTarget} (h : build target s = .ok c) : c.zone.head? ≠ some '.' := by
  rw [← dropEnds_zone h]
  exact fun hdot => absurd (Text.head?_dropEnds hdot) (by decide)

theorem getLast?_zone {target : BlockTarget} (h : build target s = .ok c) :
    c.zone.getLast? ≠ some '.' := by
  rw [← dropEnds_zone h]
  exact fun hdot => absurd (Text.getLast?_dropEnds hdot) (by decide)

theorem make_spec {wanted : Option Field → Except Unusable BlockTarget}
    (h : make wanted s = .ok c) :
    wanted s.field = .ok c.target ∧ WeightTable.make s.weights s.weight = .ok c.table := by
  unfold make at h
  cases hwanted : wanted s.field with
  | error reason =>
    rw [hwanted] at h
    cases h
  | ok target =>
    cases hbuild : build target s with
    | error reason =>
      simp only [hwanted, hbuild] at h
      cases h
    | ok l =>
      simp only [hwanted, hbuild] at h
      cases h
      obtain ⟨rfl, htable⟩ := build_spec hbuild
      exact ⟨rfl, htable⟩

theorem kind_of_addressTarget {field : Option Field} (h : addressTarget field = .ok c.target) :
    c.kind = .dnsbl := by
  unfold kind
  cases htarget : c.target with
  | address => rfl
  | domain f =>
    rw [htarget] at h
    unfold addressTarget at h
    split at h
    · cases h
    · split at h <;> cases h

theorem kind_of_domainTarget {field : Option Field} (h : domainTarget field = .ok c.target) :
    c.kind = .rhsbl := by
  unfold kind
  cases htarget : c.target with
  | address =>
    rw [htarget] at h
    unfold domainTarget at h
    dsimp only at h
    split at h <;> cases h
  | domain f => rfl

end BlockList

/-- A check has the kind of its settings. -/
theorem Check.kind_of_build {s : CheckSettings} {backoff : BackoffSettings} {now : Nat}
    {files : Files} {c : Check}
    {m : Memory} (h : build s backoff now files = .ok (c, m)) : c.kind = s.kind := by
  cases s with
  | dnsbl s =>
    obtain ⟨l, hl, heq⟩ := exists_of_map_eq_ok h
    cases heq
    exact BlockList.kind_of_addressTarget (BlockList.make_spec hl).1
  | rhsbl s =>
    obtain ⟨l, hl, heq⟩ := exists_of_map_eq_ok h
    cases heq
    exact BlockList.kind_of_domainTarget (BlockList.make_spec hl).1
  | spf s | str s | pcre s | hash s =>
    obtain ⟨l, -, heq⟩ := exists_of_map_eq_ok h
    cases heq
    rfl

/-- A check in the background starts without failures. -/
theorem Check.memory_of_build {s : CheckSettings} {backoff : BackoffSettings} {now : Nat}
    {files : Files} {c : Check} {m : Memory} (h : build s backoff now files = .ok (c, m))
    (hback : s.kind.isBackground = true) : m = freshFailures s.backoff backoff := by
  cases s with
  | dnsbl s | rhsbl s | spf s =>
    obtain ⟨l, -, heq⟩ := exists_of_map_eq_ok h
    cases heq
    rfl
  | str s | pcre s | hash s => cases hback

end MailPolicy
