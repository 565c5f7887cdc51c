/-
The power of a back-off after quiet time.

Each window that is opened halves the power once for every full ceiling of time since the instant up to
which such time has been counted, and moves that instant.  However many windows are opened in between,
the halvings add up to those of the whole time since the last back-off was over.

* `Tracker.Halved` — a power that has been halved a number of times since an instant;
* `Tracker.Halved.decay` — the halvings of two stretches of time add up;
* `Tracker.Rests` — what a back-off has left while nothing more has been started;
* `Tracker.Suffers.rests` — failures that start nothing keep that;
* `Tracker.Suffers.power_of_quiet` — **quiet time is counted once**, whatever windows were opened.
-/
import MailPolicy.Proofs.Backoff.History

namespace MailPolicy
namespace Tracker

variable {t u v : Tracker} {now opened start power stop halvings : Nat} {started : Bool}
  {s : BackoffSettings}

/-! ### Halvings -/

theorem decay_of_none (h : t.countedTo = none) : t.decay now = t := by
  rw [decay, h]

theorem decay_of_lt (h : t.countedTo = some start) (hone : 1 ≤ t.ceiling)
    (hlt : (now - start) / t.ceiling < powerWidth) :
    t.decay now =
      { t with
        power := t.power >>> ((now - start) / t.ceiling),
        countedTo := some (start + t.ceiling * ((now - start) / t.ceiling)) } := by
  rw [decay, h]
  dsimp only
  rw [Nat.max_eq_left hone, if_pos hlt]

theorem decay_of_le (h : t.countedTo = some start) (hone : 1 ≤ t.ceiling)
    (hle : powerWidth ≤ (now - start) / t.ceiling) :
    t.decay now = { t with power := 0, countedTo := none } := by
  rw [decay, h]
  dsimp only
  rw [Nat.max_eq_left hone, if_neg (Nat.not_lt.mpr hle)]

theorem backOffUntil_decay (t : Tracker) (now : Nat) :
    (t.decay now).backOffUntil = t.backOffUntil := by
  unfold decay
  split
  · rfl
  · dsimp only
    split <;> rfl

/-- Nothing is left of a power after so many halvings. -/
theorem shiftRight_of_wide (hpower : power ≤ powerLimit) (hwide : powerWidth ≤ halvings) :
    power >>> halvings = 0 := by
  refine Nat.shiftRight_eq_zero power halvings ?_
  calc power < 2 ^ powerWidth := Nat.lt_of_le_of_lt hpower (by decide)
    _ ≤ 2 ^ halvings := Nat.pow_le_pow_right (by decide) hwide

/-- Whether a tracker has the power `power` halved so many times, once for each full ceiling of time
since the instant `stop`, and has counted as much of that time. -/
structure Halved (t : Tracker) (power stop halvings : Nat) : Prop where
  power_eq : t.power = power >>> halvings
  countedTo_eq : t.countedTo = some (stop + t.ceiling * halvings) ∨
    t.countedTo = none ∧ powerWidth ≤ halvings

/-- The halvings of two stretches of time add up to those of the whole. -/
theorem Halved.decay (h : t.Halved power stop halvings) (hpower : power ≤ powerLimit)
    (hone : 1 ≤ t.ceiling) (hle : halvings ≤ (now - stop) / t.ceiling) :
    (t.decay now).Halved power stop ((now - stop) / t.ceiling) := by
  obtain ⟨hpow, hcounted | ⟨hcounted, hwide⟩⟩ := h
  · have hmore : (now - (stop + t.ceiling * halvings)) / t.ceiling =
        (now - stop) / t.ceiling - halvings := by
      rw [Nat.sub_add_eq, Nat.sub_mul_div]
    rcases Nat.lt_or_ge ((now - stop) / t.ceiling - halvings) powerWidth with hlt | hge
    · rw [decay_of_lt hcounted hone (by rwa [hmore]), hmore]
      refine ⟨?_, .inl ?_⟩
      · show t.power >>> ((now - stop) / t.ceiling - halvings) = _
        rw [hpow, ← Nat.shiftRight_add, Nat.add_sub_cancel' hle]
      · show some (stop + t.ceiling * halvings + t.ceiling * ((now - stop) / t.ceiling - halvings)) = _
        rw [Nat.add_assoc, ← Nat.mul_add, Nat.add_sub_cancel' hle]
    · rw [decay_of_le hcounted hone (by rwa [hmore])]
      have hwide : powerWidth ≤ (now - stop) / t.ceiling := Nat.le_trans hge (Nat.sub_le _ _)
      exact ⟨(shiftRight_of_wide hpower hwide).symm, .inr ⟨rfl, hwide⟩⟩
  · -- The instant has been dropped, but then the power is zero already.
    have hwider : powerWidth ≤ (now - stop) / t.ceiling := Nat.le_trans hwide hle
    rw [decay_of_none hcounted]
    refine ⟨?_, .inr ⟨hcounted, hwider⟩⟩
    rw [hpow, shiftRight_of_wide hpower hwide, shiftRight_of_wide hpower hwider]

/-! ### The limits of some settings -/

namespace Stems

variable (h : Stems s t)

include h

theorem maxPower_le : t.maxPower ≤ powerLimit := by
  rw [h.limits.maxPower_eq]
  exact Nat.max_le.mpr ⟨Nat.min_le_right .., by decide⟩

theorem one_le_maxPower : 1 ≤ t.maxPower := by
  rw [h.limits.maxPower_eq]
  exact one_le_maxPower_ofSettings s

theorem one_le_ceiling : 1 ≤ t.ceiling := by
  rw [h.limits.ceiling_eq]
  show 1 ≤ max s.ceiling (max s.base 1) * 1000
  omega

end Stems

/-! ### After a back-off -/

/-- Whether a tracker is what a back-off of the given power, over at the instant `stop`, has left,
nothing having been started since. -/
structure Rests (t : Tracker) (power stop : Nat) : Prop where
  one_le : 1 ≤ power
  le_max : power ≤ t.maxPower
  until_eq : t.backOffUntil = some stop
  halved : t.Halved power stop (t.windowStart.elim 0 fun opened => (opened - stop) / t.ceiling)

/-- A back-off begins with the power that it has and ends after its length. -/
theorem Stems.rests_of_record? (h : Stems s t) (hr : t.record? now = some (u, true)) :
    u.windowStart = none ∧ u.Rests u.power (now + u.length u.power) := by
  have hone : 1 ≤ (t.count now).maxPower := by
    rw [(sameLimits_count t now).maxPower_eq]
    exact h.one_le_maxPower
  obtain ⟨-, rfl⟩ := backOff?_eq_some_iff.mp (backOff?_of_record? hr).2
  exact ⟨rfl, one_le_nextPower hone _, nextPower_le hone _, rfl, rfl, .inl rfl⟩

theorem Rests.count (h : t.Rests power stop) (hs : Stems s t)
    (hopened_le : ∀ opened, t.windowStart = some opened → opened ≤ now) :
    (t.count now).Rests power stop := by
  cases hin : t.inWindow now with
  | true =>
    rw [count_of_inWindow hin]
    exact ⟨h.one_le, h.le_max, h.until_eq, h.halved.power_eq, h.halved.countedTo_eq⟩
  | false =>
    rw [count_of_not_inWindow hin]
    have hle : (t.windowStart.elim 0 fun opened => (opened - stop) / t.ceiling) ≤
        (now - stop) / t.ceiling := by
      cases hopened : t.windowStart with
      | none => exact Nat.zero_le _
      | some opened =>
        have hbefore := hopened_le opened hopened
        exact Nat.div_le_div_right (by omega)
    have hhalved := h.halved.decay (Nat.le_trans h.le_max hs.maxPower_le) hs.one_le_ceiling hle
    have hlimits := sameLimits_decay t now
    rw [← hlimits.ceiling_eq] at hhalved
    exact ⟨h.one_le, hlimits.maxPower_eq ▸ h.le_max, (backOffUntil_decay t now).trans h.until_eq,
      hhalved.power_eq, hhalved.countedTo_eq⟩

namespace Suffers

variable {failures before between : List Failure} {last : Nat}

/-- The state right after a back-off has been started. -/
theorem rests_of_start (h : (ofSettings s).Suffers (before ++ [⟨last, true⟩]) t) :
    t.windowStart = none ∧ t.Rests t.power (last + t.length t.power) := by
  obtain ⟨w, hbefore, -, hr⟩ := h.of_concat
  exact hbefore.stems_of_fresh.rests_of_record? hr

/-- Failures that start nothing leave what the last back-off has left. -/
theorem rests (h : t.Suffers failures u) (hs : Stems s t) (hclosed : t.windowStart = none)
    (hrests : t.Rests power stop) (hnone : ∀ f ∈ failures, f.started = false) :
    u.Rests power stop := by
  induction h with
  | start => exact hrests
  | @next failures u v now started hbefore hlate hr ih =>
    obtain rfl := hnone ⟨now, started⟩ List.mem_concat_self
    have hrest := ih fun f hf => hnone f (List.mem_append_left _ hf)
    rw [eq_count_of_record? hr]
    exact hrest.count (hbefore.stems hs) (hbefore.opened_le hclosed hlate)

/-- **Quiet time is counted once.**  After a back-off that left the tracker `t`, the power at any failure
is the one that was left, halved once for each full ceiling of time from the end of the back-off to the
opening of the window in which the failure lies, whatever windows were opened in between; and it is
doubled from there when that window is filled. -/
theorem power_of_quiet (hstart : (ofSettings s).Suffers (before ++ [⟨last, true⟩]) t)
    (hquiet : t.Suffers between u) (hnone : ∀ f ∈ between, f.started = false)
    (hlate : ∀ f ∈ between, f.time ≤ now) (hr : u.record? now = some (v, started)) :
    ∃ stop opened, t.backOffUntil = some stop ∧ (u.count now).windowStart = some opened ∧
      let left := t.power >>> ((opened - stop) / (ofSettings s).ceiling)
      (t.count opened).power = left ∧
      v.power =
        if started then if left = 0 then 1 else min (2 * left) (ofSettings s).maxPower else left := by
  obtain ⟨hclosed, hrests⟩ := hstart.rests_of_start
  have hs : Stems s t := hstart.stems_of_fresh
  have hopened_le := hquiet.opened_le hclosed hlate
  -- The failures in between and then this one leave what the back-off has left.
  have hcount : (u.count now).Rests t.power (last + t.length t.power) :=
    (hquiet.rests hs hclosed hrests hnone).count (hquiet.stems hs) hopened_le
  have hlimits := (hquiet.stems hs).limits.trans (sameLimits_count u now)
  obtain ⟨opened, hopened, -⟩ := exists_windowStart_count hopened_le
  have hleft : (u.count now).power =
      t.power >>> ((opened - (last + t.length t.power)) / (ofSettings s).ceiling) := by
    rw [hcount.halved.power_eq, hopened, hlimits.ceiling_eq]
    rfl
  refine ⟨_, opened, hrests.until_eq, hopened, ?_, ?_⟩
  · -- The same if the window of this failure is the first.
    have halone : (t.count opened).Rests t.power (last + t.length t.power) := by
      refine hrests.count hs ?_
      rw [hclosed]
      exact nofun
    have hout : t.inWindow opened = false := by
      rw [inWindow, hclosed]
      rfl
    have hfirst : (t.count opened).windowStart = some opened := by
      rw [count_of_not_inWindow hout]
    rw [halone.halved.power_eq, hfirst, (sameLimits_count t opened).ceiling_eq, hs.limits.ceiling_eq]
    rfl
  · rw [← hleft]
    cases started with
    | false => rw [eq_count_of_record? hr, if_neg Bool.false_ne_true]
    | true =>
      obtain ⟨-, rfl⟩ := backOff?_eq_some_iff.mp (backOff?_of_record? hr).2
      show (u.count now).nextPower (u.count now).power = _
      rw [nextPower, hlimits.maxPower_eq, if_pos rfl, Nat.mul_comm]

/-- Windows that are opened 8 and 18 seconds after the end of a back-off of power 8, with a ceiling of
8 seconds, leave 8 halved once and then once more. -/
theorem power_of_quiet_twice :
    let s : BackoffSettings := { timeFrame := 5, maxErrors := 2, base := 1, ceiling := 8 }
    let before : List Failure :=
      [⟨0, false⟩, ⟨0, true⟩, ⟨0, false⟩, ⟨0, true⟩, ⟨0, false⟩, ⟨0, true⟩, ⟨0, false⟩]
    let t : Tracker := { ofSettings s with
      power := 8, backOffUntil := some 8000, countedTo := some 8000 }
    let u : Tracker := { t with
      windowStart := some 16000, errors := 1, power := 4, countedTo := some 16000 }
    let v : Tracker := { t with
      windowStart := some 26000, errors := 1, power := 2, countedTo := some 24000 }
    (ofSettings s).Suffers (before ++ [⟨0, true⟩]) t ∧ t.Suffers [⟨16000, false⟩] u ∧
      u.record? 26000 = some (v, false) ∧ v.power = 8 >>> 2 := by
  intro s before t u v
  have hfirst : (ofSettings s).recordAll? [0, 0, 0, 0, 0, 0, 0, 0] = some (before ++ [⟨0, true⟩], t) := by
    decide
  obtain ⟨-, hstart⟩ := suffers_of_recordAll? (by decide) hfirst
  have hsecond : t.recordAll? [16000] = some ([⟨16000, false⟩], u) := by decide
  obtain ⟨-, hquiet⟩ := suffers_of_recordAll? (by decide) hsecond
  have hthird : u.record? 26000 = some (v, false) := by decide
  obtain ⟨stop, opened, hstop, hopened, -, hpower⟩ :=
    hstart.power_of_quiet hquiet (by decide) (by decide) hthird
  have hwindow : (u.count 26000).windowStart = some 26000 := by decide
  rw [hwindow] at hopened
  cases hstop
  cases hopened
  exact ⟨hstart, hquiet, hthird, hpower.trans (by decide)⟩

end Suffers
end Tracker
end MailPolicy
