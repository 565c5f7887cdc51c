/-
How long back-offs are.

A back-off lasts the base length times its power, and no longer than the ceiling.  The power doubles from
one back-off to the next unless quiet time has halved it, which takes a full ceiling without trouble, and
so a back-off that follows soon is at least as long as the one before.

* `Tracker.length_mono` — a greater power stands for a longer back-off;
* `Tracker.Rests.length_le` — a back-off is no shorter than the last one if its window was opened soon;
* `Tracker.Rests.stop_le` — no back-off ends before the last one does;
* `Tracker.Suffers.backOff_lengths` — **back-offs have their lengths, and those do not fall soon**.
-/
import MailPolicy.Proofs.Backoff.Decay

namespace MailPolicy
namespace Tracker

variable {t u : Tracker} {now opened power stop : Nat} {started : Bool} {s : BackoffSettings}

/-! ### Powers and lengths -/

theorem base_mul_maxPower_le_ofSettings (s : BackoffSettings) :
    (ofSettings s).base * (ofSettings s).maxPower ≤ (ofSettings s).ceiling := by
  show max s.base 1 * 1000 * max (min (max s.ceiling (max s.base 1) / max s.base 1) powerLimit) 1 ≤
    max s.ceiling (max s.base 1) * 1000
  rw [Nat.mul_right_comm]
  refine Nat.mul_le_mul_right 1000 ?_
  generalize hbase : max s.base 1 = base
  generalize hceiling : max s.ceiling base = ceiling
  have hpos : 0 < base := by omega
  have hone : 1 ≤ ceiling / base := (Nat.le_div_iff_mul_le hpos).mpr (by omega)
  calc base * max (min (ceiling / base) powerLimit) 1
      ≤ base * (ceiling / base) := Nat.mul_le_mul_left base (by omega)
    _ ≤ ceiling := Nat.mul_div_le ceiling base

/-- Settings without a flaw are taken as they are. -/
theorem lengths_of_flaw? {owner : Text} (hvalid : s.flaw? owner = none) :
    (ofSettings s).base = s.base * 1000 ∧ (ofSettings s).ceiling = s.ceiling * 1000 := by
  have hbase : 1 ≤ s.base ∧ s.base ≤ s.ceiling := by
    unfold BackoffSettings.flaw? at hvalid
    split at hvalid
    · cases hvalid
    · split at hvalid
      · cases hvalid
      · omega
  constructor
  · show max s.base 1 * 1000 = _
    rw [Nat.max_eq_left hbase.1]
  · show max s.ceiling (max s.base 1) * 1000 = _
    rw [Nat.max_eq_left hbase.1, Nat.max_eq_left hbase.2]

theorem length_le_ceiling (hcap : t.base * t.maxPower ≤ t.ceiling) (power : Nat) :
    t.length power ≤ t.ceiling := by
  unfold length
  split
  · exact Nat.le_refl _
  · exact Nat.le_trans (Nat.mul_le_mul_left t.base (by omega)) hcap

/-- A greater power stands for a longer back-off. -/
theorem length_mono (hcap : t.base * t.maxPower ≤ t.ceiling) {p q : Nat} (hle : p ≤ q) :
    t.length p ≤ t.length q := by
  by_cases hmax : t.maxPower ≤ q
  · rw [show t.length q = t.ceiling from if_pos hmax]
    exact length_le_ceiling hcap p
  · have hsmall : ¬t.maxPower ≤ p := by omega
    rw [length, length, if_neg hmax, if_neg hsmall]
    exact Nat.mul_le_mul_left t.base hle

theorem SameLimits.length_eq (h : t.SameLimits u) (power : Nat) : u.length power = t.length power := by
  rw [length, length, h.maxPower_eq, h.ceiling_eq, h.base_eq]

theorem Stems.base_mul_maxPower_le (h : Stems s t) : t.base * t.maxPower ≤ t.ceiling := by
  rw [h.limits.base_eq, h.limits.maxPower_eq, h.limits.ceiling_eq]
  exact base_mul_maxPower_le_ofSettings s

theorem le_nextPower (hone : 1 ≤ power) (hmax : power ≤ t.maxPower) : power ≤ t.nextPower power := by
  unfold nextPower
  split <;> omega

theorem backOffUntil_count (t : Tracker) (now : Nat) :
    (t.count now).backOffUntil = t.backOffUntil := by
  cases hin : t.inWindow now with
  | true => rw [count_of_inWindow hin]
  | false => rw [count_of_not_inWindow hin, backOffUntil_decay]

theorem omits_iff {instant : Nat} :
    t.omits instant = true ↔ ∃ stop, t.backOffUntil = some stop ∧ instant < stop := by
  unfold omits
  cases t.backOffUntil with
  | none => simp
  | some stop => simp

/-! ### One back-off after the other -/

/-- The power of a back-off follows on the one that its last failure finds. -/
theorem power_of_started (hr : t.record? now = some (u, true)) :
    u.power = t.nextPower (t.count now).power := by
  obtain ⟨-, rfl⟩ := backOff?_eq_some_iff.mp (backOff?_of_record? hr).2
  show (t.count now).nextPower (t.count now).power = _
  rw [nextPower, nextPower, (sameLimits_count t now).maxPower_eq]

namespace Rests

variable (h : t.Rests power stop) (hs : Stems s t)
  (hopened_le : ∀ opened, t.windowStart = some opened → opened ≤ now)

include h hs hopened_le

/-- In a window that was opened less than a ceiling after the end of the last back-off, nothing has been
halved yet. -/
theorem power_count (hopened : (t.count now).windowStart = some opened) (hsoon : opened < stop + t.ceiling) :
    (t.count now).power = power := by
  have hcount := (h.count hs hopened_le).halved.power_eq
  have hceiling := hs.one_le_ceiling
  have hnone : (opened - stop) / t.ceiling = 0 := Nat.div_eq_of_lt (by omega)
  rwa [hopened, (sameLimits_count t now).ceiling_eq, Option.elim_some, hnone,
    Nat.shiftRight_zero] at hcount

variable (hr : t.record? now = some (u, true))

include hr

/-- A back-off is no shorter than the last one, if its window was opened less than a ceiling after that
was over. -/
theorem length_le (hopened : (t.count now).windowStart = some opened) (hsoon : opened < stop + t.ceiling) :
    t.length power ≤ t.length u.power := by
  rw [power_of_started hr, h.power_count hs hopened_le hopened hsoon]
  exact length_mono hs.base_mul_maxPower_le (le_nextPower h.one_le h.le_max)

/-- No back-off ends before the last one does. -/
theorem stop_le {last : Nat} (hstop : stop = last + t.length power) (hlast : last ≤ now) :
    stop ≤ now + t.length u.power := by
  rcases Nat.lt_or_ge now stop with hbefore | hafter
  · -- While the last back-off lasts, nothing has been halved.
    obtain ⟨opened, hopened, hle⟩ := exists_windowStart_count hopened_le
    have hlength := h.length_le hs hopened_le hr hopened (by omega)
    omega
  · omega

end Rests

namespace Suffers

variable {failures before after : List Failure} {last : Nat}

theorem power_le (h : (ofSettings s).Suffers failures t) : t.power ≤ (ofSettings s).maxPower := by
  induction h with
  | start => exact Nat.zero_le _
  | @next failures u v now started hbefore _ hr ih =>
    have hmax := hbefore.sameLimits.maxPower_eq
    rw [← hmax] at ih ⊢
    exact power_record?_le (hmax ▸ one_le_maxPower_ofSettings s) ih hr

/-- What has come of a history with a last failure that started a back-off. -/
theorem exists_rests (h : (ofSettings s).Suffers (before ++ ⟨last, true⟩ :: after) t)
    (hnone : ∀ f ∈ after, f.started = false) : ∃ power, t.Rests power (last + t.length power) := by
  rw [List.append_cons] at h
  obtain ⟨w, hstart, hafter⟩ := h.exists_of_append
  obtain ⟨hclosed, hrests⟩ := hstart.rests_of_start
  refine ⟨w.power, ?_⟩
  rw [hafter.sameLimits.length_eq]
  exact hafter.rests hstart.stems_of_fresh hclosed hrests hnone

theorem backOffUntil_eq_none (h : (ofSettings s).Suffers failures t)
    (hnone : ∀ f ∈ failures, f.started = false) : t.backOffUntil = none := by
  induction h with
  | start => rfl
  | @next failures u v now started _ _ hr ih =>
    obtain rfl := hnone ⟨now, started⟩ List.mem_concat_self
    rw [eq_count_of_record? hr, backOffUntil_count]
    exact ih fun f hf => hnone f (List.mem_append_left _ hf)

/-- No failure moves the end of a back-off to an earlier instant. -/
theorem omits_of_omits (h : (ofSettings s).Suffers failures t) (hlate : ∀ f ∈ failures, f.time ≤ now)
    (hr : t.record? now = some (u, started)) {instant : Nat} (homits : t.omits instant = true) :
    u.omits instant = true := by
  obtain ⟨stop, hstop, hinstant⟩ := omits_iff.mp homits
  cases started with
  | false =>
    rw [eq_count_of_record? hr, omits_iff]
    exact ⟨stop, (backOffUntil_count t now).trans hstop, hinstant⟩
  | true =>
    have hs : Stems s t := h.stems_of_fresh
    rcases exists_last_started failures with hnone | ⟨before, last, after, rfl, hnone⟩
    · rw [h.backOffUntil_eq_none hnone] at hstop
      cases hstop
    · obtain ⟨power, hrests⟩ := h.exists_rests hnone
      have hlast : last ≤ now := hlate ⟨last, true⟩ (List.mem_append_right _ List.mem_cons_self)
      have hle := hrests.stop_le hs (h.opened_le rfl hlate) hr rfl hlast
      rw [hrests.until_eq] at hstop
      obtain rfl := Option.some.inj hstop
      refine omits_iff.mpr ⟨now + t.length u.power, ?_, by omega⟩
      rw [← (sameLimits_record? hr).length_eq]
      exact (hs.rests_of_record? hr).2.until_eq

/-- **Back-offs have their lengths, and those do not fall soon.**  Whatever failures there have been, the
power stays within its ceiling, and no failure moves the end of a back-off to an earlier instant; a
back-off lasts from the failure that starts it for the base length times its power, or for the ceiling
when its power is the greatest; and if its window was opened less than a ceiling after the end of the
one before, then it is at least as long. -/
theorem backOff_lengths {owner : Text} (hvalid : s.flaw? owner = none)
    (h : (ofSettings s).Suffers failures t) (hlate : ∀ f ∈ failures, f.time ≤ now)
    (hr : t.record? now = some (u, started)) :
    u.power ≤ (ofSettings s).maxPower ∧
    (∀ instant, t.omits instant = true → u.omits instant = true) ∧
    (started = true →
      let length := if u.power = (ofSettings s).maxPower then s.ceiling * 1000 else s.base * 1000 * u.power
      s.base * 1000 ≤ length ∧ length ≤ s.ceiling * 1000 ∧
      (∀ instant, u.omits instant = true ↔ instant < now + length) ∧
      ∀ before last between, failures = before ++ ⟨last, true⟩ :: between →
        (∀ f ∈ between, f.started = false) →
        ∃ previous opened, t.backOffUntil = some (last + previous) ∧
          (t.count now).windowStart = some opened ∧
          (opened < last + previous + s.ceiling * 1000 → previous ≤ length)) := by
  have hs : Stems s t := h.stems_of_fresh
  have hpower : u.power ≤ (ofSettings s).maxPower := (h.next hlate hr).power_le
  refine ⟨hpower, fun instant => h.omits_of_omits hlate hr, ?_⟩
  rintro rfl
  have hu : Stems s u := hs.record? hr
  obtain ⟨hbase, hceiling⟩ := lengths_of_flaw? hvalid
  rw [← hu.limits.base_eq] at hbase
  rw [← hu.limits.ceiling_eq] at hceiling
  have hlength : u.length u.power =
      if u.power = (ofSettings s).maxPower then s.ceiling * 1000 else s.base * 1000 * u.power := by
    rw [Tracker.length, hu.limits.maxPower_eq, hbase, hceiling]
    exact if_congr (by omega) rfl rfl
  obtain ⟨-, hrests⟩ := hs.rests_of_record? hr
  rw [← hlength]
  refine ⟨?_, ?_, fun instant => ?_, ?_⟩
  · rw [← hbase]
    refine base_le_length ?_ hrests.one_le
    rw [hu.limits.base_eq, hu.limits.ceiling_eq]
    exact base_le_ceiling_ofSettings s
  · rw [← hceiling]
    exact length_le_ceiling hu.base_mul_maxPower_le u.power
  · rw [omits_iff, hrests.until_eq]
    simp
  · rintro before last between rfl hnone
    obtain ⟨power, hlast⟩ := h.exists_rests hnone
    have hopened_le := h.opened_le rfl hlate
    obtain ⟨opened, hopened, -⟩ := exists_windowStart_count hopened_le
    refine ⟨t.length power, opened, hlast.until_eq, hopened, fun hsoon => ?_⟩
    rw [(sameLimits_record? hr).length_eq]
    refine hlast.length_le hs hopened_le hr hopened ?_
    rwa [← (sameLimits_record? hr).ceiling_eq, hceiling]

/-- Of two back-offs that follow at once the first lasts 30 seconds, and the second 60. -/
theorem backOff_lengths_second :
    let s : BackoffSettings := { maxErrors := 1 }
    let t : Tracker := { ofSettings s with
      power := 1, backOffUntil := some 30000, countedTo := some 30000 }
    let u : Tracker := { ofSettings s with
      power := 2, backOffUntil := some 100000, countedTo := some 100000 }
    s.flaw? "list".toList = none ∧ (ofSettings s).Suffers [⟨0, true⟩] t ∧
      t.record? 40000 = some (u, true) ∧ (∀ instant, u.omits instant = true ↔ instant < 40000 + 60000) ∧
      ∃ previous, t.backOffUntil = some (0 + previous) ∧ previous ≤ 60000 := by
  intro s t u
  have hvalid : s.flaw? "list".toList = none := rfl
  have hrun : (ofSettings s).recordAll? [0] = some ([⟨0, true⟩], t) := by decide
  obtain ⟨-, h⟩ := suffers_of_recordAll? (by decide) hrun
  have hr : t.record? 40000 = some (u, true) := by decide
  obtain ⟨-, -, hstarted⟩ := h.backOff_lengths hvalid (by decide) hr
  have hlength : (if u.power = (ofSettings s).maxPower then s.ceiling * 1000
      else s.base * 1000 * u.power) = 60000 := by decide
  dsimp only at hstarted
  rw [hlength] at hstarted
  obtain ⟨-, -, homits, hlast⟩ := hstarted rfl
  obtain ⟨previous, opened, hprevious, hopened, hle⟩ := hlast [] 0 [] rfl nofun
  have hwindow : (t.count 40000).windowStart = some 40000 := by decide
  rw [hwindow] at hopened
  cases hopened
  have hfirst : 30000 = 0 + previous := Option.some.inj hprevious
  have hsoon : 40000 < 0 + previous + s.ceiling * 1000 := by
    rw [← hfirst]
    decide
  exact ⟨hvalid, h, hr, homits, previous, hprevious, hle hsoon⟩

end Suffers
end Tracker
end MailPolicy
