/-
What becomes of a failure that is recorded.

It falls into the window that is open, opens one, or fills one, which starts a back-off.  Nothing
else changes a tracker, and its limits never change.

* `Tracker.record?_cases` — the three ways;
* `Tracker.sameLimits_record?` — the limits stay;
* `Tracker.base_le_length` — no back-off is shorter than the first;
* `Tracker.power_record?_le` — the power never exceeds its ceiling.
-/
import MailPolicy.Backoff

namespace MailPolicy
namespace Tracker

variable {t u : Tracker} {now : Nat} {started : Bool}

/-! ### The three ways -/

/-- Whether one tracker has the limits of another. -/
structure SameLimits (t u : Tracker) : Prop where
  timeFrame_eq : u.timeFrame = t.timeFrame
  maxErrors_eq : u.maxErrors = t.maxErrors
  base_eq : u.base = t.base
  ceiling_eq : u.ceiling = t.ceiling
  maxPower_eq : u.maxPower = t.maxPower

theorem SameLimits.trans {v : Tracker} (h : t.SameLimits u) (h' : u.SameLimits v) :
    t.SameLimits v where
  timeFrame_eq := h'.timeFrame_eq.trans h.timeFrame_eq
  maxErrors_eq := h'.maxErrors_eq.trans h.maxErrors_eq
  base_eq := h'.base_eq.trans h.base_eq
  ceiling_eq := h'.ceiling_eq.trans h.ceiling_eq
  maxPower_eq := h'.maxPower_eq.trans h.maxPower_eq

theorem sameLimits_decay (t : Tracker) (now : Nat) : t.SameLimits (t.decay now) := by
  unfold decay
  split
  · exact ⟨rfl, rfl, rfl, rfl, rfl⟩
  · dsimp only
    split <;> exact ⟨rfl, rfl, rfl, rfl, rfl⟩

theorem overflowed_decay (t : Tracker) (now : Nat) : (t.decay now).overflowed = t.overflowed := by
  unfold decay
  split
  · rfl
  · dsimp only
    split <;> rfl

theorem count_of_inWindow (h : t.inWindow now = true) :
    t.count now = { t with errors := t.errors + 1 } := if_pos h

theorem count_of_not_inWindow (h : t.inWindow now = false) :
    t.count now = { t.decay now with windowStart := some now, errors := 1 } := by
  rw [count, h]
  rfl

theorem sameLimits_count (t : Tracker) (now : Nat) : t.SameLimits (t.count now) := by
  cases h : t.inWindow now with
  | true =>
    rw [count_of_inWindow h]
    exact ⟨rfl, rfl, rfl, rfl, rfl⟩
  | false =>
    rw [count_of_not_inWindow h]
    exact (sameLimits_decay t now).trans ⟨rfl, rfl, rfl, rfl, rfl⟩

theorem overflowed_count (t : Tracker) (now : Nat) : (t.count now).overflowed = t.overflowed := by
  cases h : t.inWindow now with
  | true => rw [count_of_inWindow h]
  | false => rw [count_of_not_inWindow h, overflowed_decay]

/-- A failure falls into the open window without filling it, opens a window, or fills one. -/
theorem record?_cases (h : t.record? now = some (u, started)) :
    (started = false ∧ t.inWindow now = true ∧ t.errors + 1 < t.maxErrors ∧
      u = { t with errors := t.errors + 1 }) ∨
    (started = false ∧ t.inWindow now = false ∧ 1 < t.maxErrors ∧
      u = { t.decay now with windowStart := some now, errors := 1 }) ∨
    (started = true ∧ t.maxErrors ≤ (t.count now).errors ∧ (t.count now).backOff? now = some u) := by
  rw [record?, (sameLimits_count t now).maxErrors_eq] at h
  by_cases hlt : (t.count now).errors < t.maxErrors
  · rw [if_pos hlt] at h
    obtain ⟨rfl, rfl⟩ := Prod.mk.inj (Option.some.inj h)
    cases hin : t.inWindow now with
    | true =>
      rw [count_of_inWindow hin] at hlt ⊢
      exact .inl ⟨rfl, rfl, hlt, rfl⟩
    | false =>
      rw [count_of_not_inWindow hin] at hlt ⊢
      exact .inr (.inl ⟨rfl, rfl, hlt, rfl⟩)
  · rw [if_neg hlt, Option.map_eq_some_iff] at h
    obtain ⟨v, hv, heq⟩ := h
    obtain ⟨rfl, rfl⟩ := Prod.mk.inj heq
    exact .inr (.inr ⟨rfl, Nat.le_of_not_lt hlt, hv⟩)

theorem backOff?_eq_some_iff :
    t.backOff? now = some u ↔ now + t.length (t.nextPower t.power) < clockEnd ∧
      { t with
        windowStart := none, errors := 0, power := t.nextPower t.power,
        backOffUntil := some (now + t.length (t.nextPower t.power)),
        countedTo := some (now + t.length (t.nextPower t.power)) } = u := by
  rw [backOff?, Option.ite_none_right_eq_some, Option.some.injEq]

theorem sameLimits_record? (h : t.record? now = some (u, started)) : t.SameLimits u := by
  rcases record?_cases h with ⟨-, -, -, rfl⟩ | ⟨-, -, -, rfl⟩ | ⟨-, -, hback⟩
  · exact ⟨rfl, rfl, rfl, rfl, rfl⟩
  · exact (sameLimits_decay t now).trans ⟨rfl, rfl, rfl, rfl, rfl⟩
  · obtain ⟨-, rfl⟩ := backOff?_eq_some_iff.mp hback
    exact (sameLimits_count t now).trans ⟨rfl, rfl, rfl, rfl, rfl⟩

theorem overflowed_record? (h : t.record? now = some (u, started)) :
    u.overflowed = t.overflowed := by
  rcases record?_cases h with ⟨-, -, -, rfl⟩ | ⟨-, -, -, rfl⟩ | ⟨-, -, hback⟩
  · rfl
  · exact overflowed_decay t now
  · obtain ⟨-, rfl⟩ := backOff?_eq_some_iff.mp hback
    exact overflowed_count t now

/-- That the clock has not sufficed stays in mind. -/
theorem of_overflowed_record (h : (t.record now).1.overflowed = false) :
    t.overflowed = false ∧ ∃ started, t.record? now = some ((t.record now).1, started) := by
  rw [record] at h ⊢
  cases hr : t.record? now with
  | none =>
    rw [hr] at h
    cases h
  | some result =>
    obtain ⟨u, started⟩ := result
    rw [hr] at h
    exact ⟨overflowed_record? hr ▸ h, started, rfl⟩

/-! ### Back-offs -/

theorem base_le_ceiling_ofSettings (s : BackoffSettings) :
    (ofSettings s).base ≤ (ofSettings s).ceiling :=
  Nat.mul_le_mul_right _ (Nat.le_max_right _ _)

theorem one_le_maxPower_ofSettings (s : BackoffSettings) : 1 ≤ (ofSettings s).maxPower :=
  Nat.le_max_right ..

theorem one_le_nextPower (h : 1 ≤ t.maxPower) (p : Nat) : 1 ≤ t.nextPower p := by
  unfold nextPower
  split <;> omega

/-- No back-off is shorter than the first. -/
theorem base_le_length (hbase : t.base ≤ t.ceiling) {p : Nat} (hp : 1 ≤ p) :
    t.base ≤ t.length p := by
  unfold length
  split
  · exact hbase
  · exact Nat.le_mul_of_pos_right _ hp

theorem power_decay_le (t : Tracker) (now : Nat) : (t.decay now).power ≤ t.power := by
  unfold decay
  split
  · exact Nat.le_refl _
  · dsimp only
    split
    · exact Nat.shiftRight_le ..
    · exact Nat.zero_le _

theorem nextPower_le (h : 1 ≤ t.maxPower) (p : Nat) : t.nextPower p ≤ t.maxPower := by
  unfold nextPower
  split
  · exact h
  · exact Nat.min_le_right ..

/-- A power within its ceiling stays there. -/
theorem power_record?_le (hone : 1 ≤ t.maxPower) (hp : t.power ≤ t.maxPower)
    (h : t.record? now = some (u, started)) : u.power ≤ t.maxPower := by
  rcases record?_cases h with ⟨-, -, -, rfl⟩ | ⟨-, -, -, rfl⟩ | ⟨-, -, hback⟩
  · exact hp
  · exact Nat.le_trans (power_decay_le t now) hp
  · obtain ⟨-, rfl⟩ := backOff?_eq_some_iff.mp hback
    have hmax : (t.count now).maxPower = t.maxPower := (sameLimits_count t now).maxPower_eq
    rw [← hmax]
    exact nextPower_le (hmax ▸ hone) _

end Tracker
end MailPolicy
