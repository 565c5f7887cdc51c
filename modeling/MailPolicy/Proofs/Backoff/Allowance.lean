/-
How many more failures a resource can have before an instant.

Failures are counted in windows that open with a failure, and a full window has the resource left
alone for the length of a back-off.  So in an interval no longer than a window and than the
shortest back-off at most two windows count: one that was open before, and one opened within.  The
first can take all failures but one without being full, and neither the second nor a back-off ends
before the interval does.

* `Tracker.Stems` — the limits are those of some settings, and an open window is not full;
* `Tracker.allowance` — how many failures there can be before an instant;
* `Tracker.Stems.allowance_record?_lt` — **each failure takes one of them**;
* `Tracker.Stems.countP_add_allowance_le` — what was asked for in an interval, and what is left.
-/
import MailPolicy.Config.Basic
import MailPolicy.Proofs.Backoff.Recording

namespace MailPolicy
namespace Tracker

variable {t u : Tracker} {now : Nat} {started : Bool}

/-! ### Trackers of some settings -/

variable {s : BackoffSettings} {owner : Text}

/-- Whether a tracker has the limits of some settings, and its open window is not full. -/
structure Stems (s : BackoffSettings) (t : Tracker) : Prop where
  limits : (ofSettings s).SameLimits t
  open_window : ∀ start, t.windowStart = some start → 1 ≤ t.errors ∧ t.errors < t.maxErrors

theorem stems_ofSettings (s : BackoffSettings) : Stems s (ofSettings s) :=
  ⟨⟨rfl, rfl, rfl, rfl, rfl⟩, nofun⟩

namespace Stems

theorem one_le_maxErrors (h : Stems s t) : 1 ≤ t.maxErrors := by
  rw [h.limits.maxErrors_eq]
  exact Nat.le_max_right _ _

/-- Settings without a flaw are taken as they are. -/
theorem limits_of_flaw? (h : Stems s t) (hvalid : s.flaw? owner = none) :
    t.timeFrame = s.timeFrame * 1000 ∧ t.maxErrors = s.maxErrors ∧ t.base = s.base * 1000 := by
  have hpos : 1 ≤ s.maxErrors ∧ 1 ≤ s.base := by
    by_cases hzero : s.maxErrors = 0 ∨ s.base = 0
    · rw [BackoffSettings.flaw?, if_pos hzero] at hvalid
      cases hvalid
    · omega
  refine ⟨h.limits.timeFrame_eq, ?_, ?_⟩
  · exact h.limits.maxErrors_eq.trans (Nat.max_eq_left hpos.1)
  · exact h.limits.base_eq.trans (congrArg (· * 1000) (Nat.max_eq_left hpos.2))

/-- A back-off closes the window and is no shorter than the first. -/
theorem filled (h : Stems s t) (hback : (t.count now).backOff? now = some u) :
    u.windowStart = none ∧ ∃ stop, u.backOffUntil = some stop ∧ now + t.base ≤ stop := by
  obtain ⟨-, -, hbase, hceiling, hpower⟩ := sameLimits_count t now
  have hle : t.base ≤ t.ceiling := by
    rw [h.limits.base_eq, h.limits.ceiling_eq]
    exact base_le_ceiling_ofSettings s
  have hone : 1 ≤ t.maxPower := by
    rw [h.limits.maxPower_eq]
    exact one_le_maxPower_ofSettings s
  have hlength := base_le_length (t := t.count now) (by omega)
    (one_le_nextPower (t := t.count now) (by omega) (t.count now).power)
  obtain ⟨-, rfl⟩ := backOff?_eq_some_iff.mp hback
  exact ⟨rfl, _, rfl, Nat.add_le_add_left (hbase ▸ hlength) now⟩

theorem record? (h : Stems s t) (hr : t.record? now = some (u, started)) : Stems s u := by
  have hlimits := sameLimits_record? hr
  refine ⟨h.limits.trans hlimits, fun start hstart => ?_⟩
  rw [hlimits.maxErrors_eq]
  rcases record?_cases hr with ⟨-, -, hlt, rfl⟩ | ⟨-, -, hlt, rfl⟩ | ⟨-, -, hback⟩
  · exact ⟨Nat.le_add_left 1 _, hlt⟩
  · exact ⟨Nat.le_refl 1, hlt⟩
  · rw [(h.filled hback).1] at hstart
    cases hstart

end Stems

/-! ### Failures before an instant -/

/-- How many failures there can be from the instant `now` on that are asked for before the instant
`stop`, when no window or back-off that starts in between is over by then. -/
def allowance (t : Tracker) (stop now : Nat) : Nat :=
  if stop ≤ now then 0
  else
    match t.windowStart with
    | some start =>
      (if stop ≤ start + t.timeFrame then t.maxErrors else 2 * t.maxErrors - 1) - t.errors
    | none => if t.backOffUntil.any (stop ≤ ·) then 0 else t.maxErrors

variable {stop asked later : Nat}

theorem allowance_of_le (h : stop ≤ now) : t.allowance stop now = 0 := if_pos h

theorem allowance_anti (t : Tracker) (stop : Nat) (h : now ≤ later) :
    t.allowance stop later ≤ t.allowance stop now := by
  rcases Nat.lt_or_ge later stop with hlt | hge
  · have hnow : ¬stop ≤ now := by omega
    have hlater : ¬stop ≤ later := by omega
    have hsame : t.allowance stop later = t.allowance stop now := by
      rw [allowance, allowance, if_neg hnow, if_neg hlater]
    exact Nat.le_of_eq hsame
  · rw [allowance_of_le hge]
    exact Nat.zero_le _

theorem Stems.allowance_le (h : Stems s t) (stop now : Nat) :
    t.allowance stop now ≤ max 1 (2 * t.maxErrors - 2) := by
  have hpos := h.one_le_maxErrors
  unfold allowance
  split
  · exact Nat.zero_le _
  · cases hstart : t.windowStart with
    | none =>
      dsimp only
      split <;> omega
    | some start =>
      have herrors := h.open_window start hstart
      dsimp only
      split <;> omega

/-- What is left when the resource is not left alone. -/
theorem allowance_of_not_omits (hopen : t.omits asked = false) (hnow : now ≤ asked)
    (hasked : asked < stop) :
    t.allowance stop now =
      match t.windowStart with
      | some start =>
        (if stop ≤ start + t.timeFrame then t.maxErrors else 2 * t.maxErrors - 1) - t.errors
      | none => t.maxErrors := by
  have hbefore : ¬stop ≤ now := by omega
  have hback : t.backOffUntil.any (stop ≤ ·) = false := by
    unfold omits at hopen
    cases huntil : t.backOffUntil with
    | none => rfl
    | some ends =>
      simp only [huntil, Option.any_some, decide_eq_false_iff_not] at hopen ⊢
      omega
  rw [allowance, if_neg hbefore, hback]
  rfl

theorem Stems.allowance_pos (h : Stems s t) (hopen : t.omits asked = false) (hnow : now ≤ asked)
    (hasked : asked < stop) : 0 < t.allowance stop now := by
  rw [allowance_of_not_omits hopen hnow hasked]
  cases hstart : t.windowStart with
  | none => exact h.one_le_maxErrors
  | some start =>
    have herrors := h.open_window start hstart
    dsimp only
    split <;> omega

/-- **Each failure takes one of those that are left**, if its window or back-off is not over before
`stop` in case it starts one. -/
theorem Stems.allowance_record?_lt (h : Stems s t) (hopen : t.omits asked = false)
    (hnow : now ≤ asked) (hasked : asked < stop) (hlater : asked ≤ later)
    (hframe : stop ≤ asked + t.timeFrame) (hbase : stop ≤ asked + t.base)
    (hr : t.record? later = some (u, started)) :
    u.allowance stop later < t.allowance stop now := by
  have hpos := h.allowance_pos hopen hnow hasked
  have hleft := allowance_of_not_omits hopen hnow hasked
  rcases Nat.lt_or_ge later stop with hlt | hge
  · have hafter : ¬stop ≤ later := by omega
    rcases record?_cases hr with ⟨-, hin, hroom, rfl⟩ | ⟨-, hout, hroom, rfl⟩ | ⟨-, -, hback⟩
    · -- One more in the window that is open.
      rw [hleft]
      cases hstart : t.windowStart with
      | none => simp [inWindow, hstart] at hin
      | some start =>
        simp only [allowance, if_neg hafter]
        split <;> omega
    · -- The window that this failure opens is not over before `stop`, but the one before it is.
      have hreach : stop ≤ later + (t.decay later).timeFrame := by
        rw [(sameLimits_decay t later).timeFrame_eq]
        omega
      rw [hleft]
      simp only [allowance, if_neg hafter, if_pos hreach, (sameLimits_decay t later).maxErrors_eq]
      cases hstart : t.windowStart with
      | none =>
        dsimp only
        omega
      | some start =>
        have hover : ¬stop ≤ start + t.timeFrame := by
          simp only [inWindow, hstart, Option.any_some, decide_eq_false_iff_not] at hout
          omega
        have herrors := h.open_window start hstart
        simp only [if_neg hover]
        omega
    · -- The back-off is not over before `stop`.
      obtain ⟨hclosed, ends, huntil, hlong⟩ := h.filled hback
      have hreach : stop ≤ ends := by omega
      have hnone : u.allowance stop later = 0 := by
        simp only [allowance, hclosed, huntil, Option.any_some, hreach, decide_true, if_true,
          if_neg hafter]
      rw [hnone]
      exact hpos
  · rw [allowance_of_le hge]
    exact hpos

theorem omits_of_le {asked later : Nat} (h : t.omits asked = false) (hle : asked ≤ later) :
    t.omits later = false := by
  unfold omits at h ⊢
  cases huntil : t.backOffUntil with
  | none => rfl
  | some ends =>
    simp only [huntil, Option.any_some, decide_eq_false_iff_not] at h ⊢
    omega

/-- What was asked for in an interval and what is left of it stay within the bound. -/
theorem Stems.countP_add_allowance_le {earlier : List Nat} {first length : Nat} (h : Stems s t)
    (hopen : t.omits asked = false) (hearlier : ∀ q ∈ earlier, q ≤ now) (hnow : now ≤ asked)
    (hlater : asked ≤ later) (hframe : length ≤ t.timeFrame) (hbase : length ≤ t.base)
    (hr : t.record? later = some (u, started))
    (hbound : earlier.countP (fun q => first ≤ q ∧ q < first + length) +
      t.allowance (first + length) now ≤ max 1 (2 * t.maxErrors - 2)) :
    (earlier ++ [asked]).countP (fun q => first ≤ q ∧ q < first + length) +
      u.allowance (first + length) later ≤ max 1 (2 * t.maxErrors - 2) := by
  rw [List.countP_append, List.countP_singleton]
  rcases Nat.lt_or_ge asked first with hbefore | hfirst
  · -- Nothing was asked for within the interval yet.
    have hnone : earlier.countP (fun q => first ≤ q ∧ q < first + length) = 0 := by
      rw [List.countP_eq_zero]
      intro q hq
      have := hearlier q hq
      simp only [decide_eq_true_eq]
      omega
    have hasked : ¬(first ≤ asked ∧ asked < first + length) := by omega
    have hle := (h.record? hr).allowance_le (first + length) later
    rw [(sameLimits_record? hr).maxErrors_eq] at hle
    simp only [hasked, decide_false, Bool.false_eq_true, if_false]
    omega
  · rcases Nat.lt_or_ge asked (first + length) with hwithin | hafter
    · have hlt := h.allowance_record?_lt hopen hnow hwithin hlater (by omega) (by omega) hr
      simp only [hfirst, hwithin, and_self, decide_true, if_true]
      omega
    · have hasked : ¬(first ≤ asked ∧ asked < first + length) := by omega
      rw [allowance_of_le (Nat.le_trans hafter hlater)]
      simp only [hasked, decide_false, Bool.false_eq_true, if_false]
      omega

end Tracker
end MailPolicy
