/-
The ranges of the numbers that failures are counted and timed with.

Failures are counted in 32 bits, spans of time have 64 bits of seconds, and the clock has signed 64 bits of
seconds.  A step that leaves its range is fatal.  With settings that were read from a configuration every
step but one stays in its range by itself; the one left is the end of a back-off, which has to be an
instant that the clock can show.

* `Tracker.checkedRecord` — records a failure with every step checked against its range;
* `Tracker.checkedRecord_eq` — it does what `Tracker.record?` does, and fails at the end of a back-off only;
* `Tracker.Suffers.climbs` — failures at one instant bring the power to its ceiling;
* `Tracker.checkedRecordAll_in_range_iff` — **no step leaves its range up to an instant if and only if the
  longest back-off from that instant on ends before the clock does**.
-/
import MailPolicy.Proofs.Backoff.Clusters
import MailPolicy.Proofs.Backoff.Lengths
import MailPolicy.Proofs.Config.Backoff

namespace MailPolicy

/-- A step of arithmetic that leaves its range. -/
inductive Excess where
  /-- Too many failures in a window. -/
  | errors
  /-- The halvings times the ceiling are too long a span. -/
  | quiet
  /-- Quiet time is counted beyond the last instant of the clock. -/
  | countedTo
  /-- The base length times the power is too long a span. -/
  | length
  /-- A back-off ends beyond the last instant of the clock. -/
  | stop
deriving DecidableEq, Repr

namespace Tracker

variable {t u : Tracker} {now last : Nat} {s : BackoffSettings}

/-! ### Checked arithmetic -/

/-- The first count that 32 bits cannot hold. -/
def counterEnd : Nat := 2 ^ 32

/-- The first number of milliseconds whose seconds 64 bits cannot hold. -/
def spanEnd : Nat := 2 ^ 64 * 1000

/-- The result of a step, if it is below the end of its range. -/
def within (e : Excess) (limit n : Nat) : Except Excess Nat := if n < limit then .ok n else .error e

/-- `decay`, with the steps checked. -/
def checkedDecay (t : Tracker) (now : Nat) : Except Excess Tracker :=
  match t.countedTo with
  | none => .ok t
  | some start => do
    let halvings := (now - start) / max t.ceiling 1
    if halvings < powerWidth then
      let quiet ← within .quiet spanEnd (t.ceiling * halvings)
      let countedTo ← within .countedTo clockEnd (start + quiet)
      return { t with power := t.power >>> halvings, countedTo := some countedTo }
    else
      return { t with power := 0, countedTo := none }

/-- `count`, with the steps checked. -/
def checkedCount (t : Tracker) (now : Nat) : Except Excess Tracker := do
  if t.inWindow now then
    let errors ← within .errors counterEnd (t.errors + 1)
    return { t with errors := errors }
  else
    let decayed ← t.checkedDecay now
    return { decayed with windowStart := some now, errors := 1 }

/-- `length`, with the step checked. -/
def checkedLength (t : Tracker) (p : Nat) : Except Excess Nat :=
  if t.maxPower ≤ p then .ok t.ceiling else within .length spanEnd (t.base * p)

/-- `backOff?`, with the steps checked. -/
def checkedBackOff (t : Tracker) (now : Nat) : Except Excess Tracker := do
  let power := t.nextPower t.power
  let length ← t.checkedLength power
  let stop ← within .stop clockEnd (now + length)
  return { t with
    windowStart := none, errors := 0, power := power, backOffUntil := some stop, countedTo := some stop }

/-- `record?`, with the steps checked. -/
def checkedRecord (t : Tracker) (now : Nat) : Except Excess (Tracker × Bool) := do
  let counted ← t.checkedCount now
  if counted.errors < counted.maxErrors then
    return (counted, false)
  else
    return (← counted.checkedBackOff now, true)

/-- `recordAll?`, with the steps checked. -/
def checkedRecordAll (t : Tracker) : List Nat → Except Excess (List Failure × Tracker)
  | [] => .ok ([], t)
  | now :: later => do
    let (u, started) ← t.checkedRecord now
    let (failures, v) ← u.checkedRecordAll later
    return (⟨now, started⟩ :: failures, v)

theorem within_of_lt {e : Excess} {limit n : Nat} (h : n < limit) : within e limit n = .ok n := if_pos h

/-- What is out of range can only be the end of a back-off. -/
def orStop {α : Type} (o : Option α) : Except Excess α := o.elim (.error .stop) .ok

/-- Whether quiet time has been counted up to an instant of the clock. -/
def OnClock (t : Tracker) : Prop := ∀ instant, t.countedTo = some instant → instant < clockEnd

/-- Quiet time is counted no further than to an instant of the clock. -/
theorem counted_lt {start : Nat} (hstart : start < clockEnd) (hnow : now < clockEnd) :
    start + t.ceiling * ((now - start) / max t.ceiling 1) < clockEnd := by
  have hle : t.ceiling * ((now - start) / max t.ceiling 1) ≤ now - start :=
    calc t.ceiling * ((now - start) / max t.ceiling 1)
        ≤ max t.ceiling 1 * ((now - start) / max t.ceiling 1) :=
          Nat.mul_le_mul_right _ (Nat.le_max_left ..)
      _ ≤ now - start := Nat.mul_div_le ..
  omega

theorem OnClock.decay (h : t.OnClock) (hnow : now < clockEnd) : (t.decay now).OnClock := by
  unfold Tracker.decay
  cases hcounted : t.countedTo with
  | none => exact h
  | some start =>
    have hlt := t.counted_lt (h start hcounted) hnow
    dsimp only
    split
    · intro instant hinstant
      cases hinstant
      exact hlt
    · exact nofun

theorem OnClock.record? {started : Bool} (h : t.OnClock) (hnow : now < clockEnd)
    (hr : t.record? now = some (u, started)) : u.OnClock := by
  rcases record?_cases hr with ⟨-, -, -, rfl⟩ | ⟨-, -, -, rfl⟩ | ⟨-, -, hback⟩
  · exact h
  · exact h.decay hnow
  · obtain ⟨hstop, rfl⟩ := backOff?_eq_some_iff.mp hback
    intro instant hinstant
    cases hinstant
    exact hstop

theorem checkedDecay_eq (h : t.OnClock) (hnow : now < clockEnd) :
    t.checkedDecay now = .ok (t.decay now) := by
  unfold checkedDecay decay
  cases hcounted : t.countedTo with
  | none => rfl
  | some start =>
    have hlt := t.counted_lt (h start hcounted) hnow
    have hspan : clockEnd < spanEnd := by decide
    dsimp only
    split
    · rw [within_of_lt (by omega)]
      show (within .countedTo clockEnd (start + _) >>= _) = _
      rw [within_of_lt hlt]
      rfl
    · rfl

theorem checkedCount_eq (hs : Stems s t) (hfits : s.Fits) (h : t.OnClock) (hnow : now < clockEnd) :
    t.checkedCount now = .ok (t.count now) := by
  unfold checkedCount count
  cases hin : t.inWindow now with
  | true =>
    -- A window that is open has room for one more.
    obtain ⟨opened, hopened, -⟩ := inWindow_eq_true_iff.mp hin
    have hroom := (hs.open_window opened hopened).2
    have hmax : t.maxErrors = max s.maxErrors 1 := hs.limits.maxErrors_eq
    have hfit := hfits.maxErrors_lt
    have hlt : t.errors + 1 < counterEnd := by
      unfold counterEnd
      omega
    rw [if_pos rfl, if_pos rfl, within_of_lt hlt]
    rfl
  | false =>
    rw [if_neg Bool.false_ne_true, if_neg Bool.false_ne_true, checkedDecay_eq h hnow]
    rfl

theorem checkedLength_eq (hlimits : (ofSettings s).SameLimits t) (hfits : s.Fits) (power : Nat) :
    t.checkedLength power = .ok (t.length power) := by
  unfold checkedLength length
  split
  · rfl
  · have hcap := base_mul_maxPower_le_ofSettings s
    rw [← hlimits.base_eq, ← hlimits.maxPower_eq, ← hlimits.ceiling_eq] at hcap
    have hceiling : t.ceiling = max s.ceiling (max s.base 1) * 1000 := hlimits.ceiling_eq
    have hbase := hfits.base_lt
    have hlongest := hfits.ceiling_lt
    refine within_of_lt (Nat.lt_of_le_of_lt ?_ (?_ : t.ceiling < spanEnd))
    · exact Nat.le_trans (Nat.mul_le_mul_left t.base (by omega)) hcap
    · unfold spanEnd
      omega

theorem checkedBackOff_eq (hlimits : (ofSettings s).SameLimits t) (hfits : s.Fits) :
    t.checkedBackOff now = orStop (t.backOff? now) := by
  unfold checkedBackOff backOff?
  dsimp only
  rw [checkedLength_eq hlimits hfits]
  show (within .stop clockEnd (now + t.length (t.nextPower t.power)) >>= _) = _
  unfold within
  split <;> rfl

/-- Recording a failure leaves no range but at the end of a back-off. -/
theorem checkedRecord_eq (hs : Stems s t) (hfits : s.Fits) (h : t.OnClock) (hnow : now < clockEnd) :
    t.checkedRecord now = orStop (t.record? now) := by
  unfold checkedRecord Tracker.record?
  rw [checkedCount_eq hs hfits h hnow]
  show (if _ then _ else _) = orStop (if _ then _ else _)
  split
  · rfl
  · rw [checkedBackOff_eq (hs.limits.trans (sameLimits_count t now)) hfits]
    cases (t.count now).backOff? now <;> rfl

theorem checkedRecordAll_eq (hs : Stems s t) (hfits : s.Fits) (h : t.OnClock) {times : List Nat}
    (hclock : ∀ now ∈ times, now < clockEnd) :
    t.checkedRecordAll times = orStop (t.recordAll? times) := by
  induction times generalizing t with
  | nil => rfl
  | cons now later ih =>
    obtain ⟨hnow, hlater⟩ := List.forall_mem_cons.mp hclock
    unfold checkedRecordAll recordAll?
    rw [checkedRecord_eq hs hfits h hnow]
    cases hr : t.record? now with
    | none => rfl
    | some result =>
      obtain ⟨u, started⟩ := result
      show (u.checkedRecordAll later >>= _) = _
      rw [ih (hs.record? hr) (h.record? hnow hr) hlater]
      show _ = orStop (u.recordAll? later >>= _)
      cases u.recordAll? later <;> rfl

/-! ### How far back-offs reach -/

theorem orStop_eq_ok_iff {α : Type} {o : Option α} {a : α} : orStop o = .ok a ↔ o = some a := by
  cases o with
  | none => simp [orStop]
  | some b => simp [orStop]

/-- A failure is recorded if the longest back-off ends before the clock does. -/
theorem exists_record? (hs : Stems s t) (hstop : now + t.ceiling < clockEnd) :
    ∃ u started, t.record? now = some (u, started) := by
  unfold Tracker.record?
  dsimp only
  split
  · exact ⟨_, _, rfl⟩
  · have hlimits := sameLimits_count t now
    have hle := length_le_ceiling hs.base_mul_maxPower_le ((t.count now).nextPower (t.count now).power)
    rw [← hlimits.length_eq] at hle
    have hlt : now + (t.count now).length ((t.count now).nextPower (t.count now).power) < clockEnd := by
      omega
    rw [backOff?_eq_some_iff.mpr ⟨hlt, rfl⟩]
    exact ⟨_, _, rfl⟩

theorem exists_recordAll? (hs : Stems s t) {times : List Nat} (hlast : ∀ now ∈ times, now ≤ last)
    (hstop : last + t.ceiling < clockEnd) : ∃ result, t.recordAll? times = some result := by
  induction times generalizing t with
  | nil => exact ⟨_, rfl⟩
  | cons now later ih =>
    obtain ⟨hnow, hlater⟩ := List.forall_mem_cons.mp hlast
    obtain ⟨u, started, hr⟩ := exists_record? hs (by omega : now + t.ceiling < clockEnd)
    obtain ⟨⟨failures, v⟩, hrest⟩ := ih (hs.record? hr) hlater
      (by rwa [(sameLimits_record? hr).ceiling_eq])
    exact ⟨_, recordAll?_cons_eq_some_iff.mpr ⟨u, started, failures, hr, hrest, rfl⟩⟩

theorem stop_lt_of_started (hr : t.record? now = some (u, true)) : now + t.length u.power < clockEnd := by
  obtain ⟨hlt, rfl⟩ := backOff?_eq_some_iff.mp (backOff?_of_record? hr).2
  rwa [(sameLimits_count t now).length_eq] at hlt

/-- A back-off that starts less than a ceiling after the last one is over has twice its power. -/
theorem Rests.power_eq_twice {power stop : Nat} (h : t.Rests power stop) (hs : Stems s t)
    (hopened_le : ∀ opened, t.windowStart = some opened → opened ≤ now)
    (hr : t.record? now = some (u, true)) (hsoon : now < stop + t.ceiling) :
    u.power = min (power * 2) t.maxPower := by
  obtain ⟨opened, hopened, hle⟩ := exists_windowStart_count hopened_le
  have hone := h.one_le
  rw [power_of_started hr, h.power_count hs hopened_le hopened (by omega), nextPower, if_neg (by omega)]

/-- Failures at one instant double the power with each back-off, up to its ceiling. -/
theorem Suffers.climbs {failures : List Failure} (h : (ofSettings s).Suffers failures t)
    (hsame : ∀ f ∈ failures, f.time = last) :
    failures.countP (·.started) = 0 ∨
    ∃ power, t.Rests power (last + t.length power) ∧ last + t.length power < clockEnd ∧
      min (2 ^ (failures.countP (·.started) - 1)) t.maxPower ≤ power := by
  induction h with
  | start => exact .inl rfl
  | @next failures u v now started hbefore hlate hr ih =>
    obtain rfl : now = last := hsame ⟨now, started⟩ List.mem_concat_self
    have hs : Stems s u := hbefore.stems_of_fresh
    have hopened_le := hbefore.opened_le rfl hlate
    have hlimits := sameLimits_record? hr
    have hih := ih fun f hf => hsame f (List.mem_append_left _ hf)
    rw [List.countP_append, List.countP_singleton]
    cases started with
    | false =>
      rcases hih with hzero | ⟨power, hrests, hclock, hle⟩
      · exact .inl hzero
      · refine .inr ⟨power, ?_, ?_, ?_⟩
        · rw [hlimits.length_eq, eq_count_of_record? hr]
          exact hrests.count hs hopened_le
        · rwa [hlimits.length_eq]
        · rwa [hlimits.maxPower_eq]
    | true =>
      obtain ⟨-, hrests⟩ := hs.rests_of_record? hr
      refine .inr ⟨v.power, hrests, ?_, ?_⟩
      · rw [hlimits.length_eq]
        exact stop_lt_of_started hr
      · rw [if_pos rfl, Nat.add_sub_cancel]
        rcases hih with hzero | ⟨power, hlast, -, hle⟩
        · -- The first back-off has the power one.
          rw [hzero]
          exact Nat.le_trans (Nat.min_le_left ..) hrests.one_le
        · have hceiling := hs.one_le_ceiling
          have hpow : 2 ^ failures.countP (·.started) ≤ 2 ^ (failures.countP (·.started) - 1) * 2 := by
            rw [← Nat.pow_succ]
            exact Nat.pow_le_pow_right (by decide) (by omega)
          rw [hlast.power_eq_twice hs hopened_le hr (by omega), hlimits.maxPower_eq]
          omega

/-- When enough failures at one instant have been recorded, the longest back-off from then on ends before
the clock does. -/
theorem Suffers.ceiling_lt_of_many {failures : List Failure} (h : (ofSettings s).Suffers failures t)
    (hsame : ∀ f ∈ failures, f.time = last)
    (hmany : (powerWidth + 1) * max 1 (2 * (ofSettings s).maxErrors - 2) ≤ failures.length) :
    last + (ofSettings s).ceiling < clockEnd := by
  have hs : Stems s t := h.stems_of_fresh
  have hclose : ∀ f ∈ failures, last ≤ f.time ∧ f.time ≤ last + (ofSettings s).timeFrame := by
    intro f hf
    rw [hsame f hf]
    exact ⟨Nat.le_refl last, Nat.le_add_right ..⟩
  have hstarted := h.le_countP_started hmany hclose
  rcases h.climbs hsame with hzero | ⟨power, -, hclock, hle⟩
  · omega
  · have hwide : 2 ^ powerWidth ≤ 2 ^ (failures.countP (·.started) - 1) :=
      Nat.pow_le_pow_right (by decide) (by omega)
    have hlimit : powerLimit < 2 ^ powerWidth := by decide
    have hmax := hs.maxPower_le
    have hgreatest : t.maxPower ≤ power := by omega
    rwa [length, if_pos hgreatest, hs.limits.ceiling_eq] at hclock

/-- **Where the steps stay in range.**  With settings of a configuration that was read, no step of
recording failures leaves its range but the end of a back-off; and that stays in range whatever failures
there are up to an instant if and only if the longest back-off from that instant on ends before the
clock does. -/
theorem checkedRecordAll_in_range_iff {text : Text} {c : Config} (hread : Config.read text = .ok c)
    (hs : s ∈ c.backoffs) (hlast : last < clockEnd) :
    (∀ times : List Nat, (∀ now ∈ times, now ≤ last) →
      (ofSettings s).checkedRecordAll times = orStop ((ofSettings s).recordAll? times)) ∧
    ((∀ times : List Nat, times.Pairwise (· ≤ ·) → (∀ now ∈ times, now ≤ last) →
        ∃ result, (ofSettings s).checkedRecordAll times = .ok result) ↔
      last + s.ceiling * 1000 < clockEnd) := by
  obtain ⟨hfits, owner, hvalid⟩ := Config.sound_of_read hread s hs
  obtain ⟨-, hceiling⟩ := lengths_of_flaw? hvalid
  have hchecked : ∀ times : List Nat, (∀ now ∈ times, now ≤ last) →
      (ofSettings s).checkedRecordAll times = orStop ((ofSettings s).recordAll? times) :=
    fun times hbefore => checkedRecordAll_eq (stems_ofSettings s) hfits nofun
      fun now hnow => Nat.lt_of_le_of_lt (hbefore now hnow) hlast
  refine ⟨hchecked, ?_, ?_⟩
  · -- So many failures at the last instant bring the longest back-off.
    intro hall
    let times := List.replicate ((powerWidth + 1) * max 1 (2 * (ofSettings s).maxErrors - 2)) last
    have hsame : ∀ now ∈ times, now = last := fun now hnow => List.eq_of_mem_replicate hnow
    have hbefore : ∀ now ∈ times, now ≤ last := fun now hnow => Nat.le_of_eq (hsame now hnow)
    have hsorted : times.Pairwise (· ≤ ·) := List.pairwise_replicate.mpr (.inr (Nat.le_refl last))
    obtain ⟨⟨failures, t⟩, hresult⟩ := hall times hsorted hbefore
    rw [hchecked times hbefore, orStop_eq_ok_iff] at hresult
    obtain ⟨htimes, h⟩ := suffers_of_recordAll? hsorted hresult
    rw [← hceiling]
    refine h.ceiling_lt_of_many (fun f hf => hsame f.time ?_) ?_
    · rw [← htimes]
      exact List.mem_map_of_mem hf
    · have hlength := congrArg List.length htimes
      rw [List.length_map, List.length_replicate] at hlength
      exact Nat.le_of_eq hlength.symm
  · intro hstop times _ hbefore
    rw [← hceiling] at hstop
    obtain ⟨result, hresult⟩ := exists_recordAll? (stems_ofSettings s) hbefore hstop
    exact ⟨result, by rw [hchecked times hbefore, hresult]; rfl⟩

/-- With a longest back-off of ten minutes all steps stay in range for three billion years. -/
theorem checkedRecordAll_in_range_default :
    let s : BackoffSettings := {}
    ∃ c, Config.read "[[stages]]\n".toList = .ok c ∧ s ∈ c.backoffs ∧ 10 ^ 20 < clockEnd ∧
      ∀ times : List Nat, times.Pairwise (· ≤ ·) → (∀ now ∈ times, now ≤ 10 ^ 20) →
        ∃ result, (ofSettings s).checkedRecordAll times = .ok result := by
  intro s
  obtain ⟨c, hread, hs⟩ : ∃ c, Config.read "[[stages]]\n".toList = .ok c ∧ s ∈ c.backoffs :=
    Config.exists_of_read (by decide +kernel)
  have hlast : 10 ^ 20 < clockEnd := by decide
  exact ⟨c, hread, hs, hlast, (checkedRecordAll_in_range_iff hread hs hlast).2.mpr (by decide)⟩

/-- The longest back-off that a configuration can ask for, begun a second after the clock started, would
end beyond its last instant. -/
theorem checkedRecordAll_out_of_range :
    let text : Text := ("[backoff]\nmax_errors=1\nbase_back_off_secs=9223372036854775807\n" ++
      "max_back_off_secs=9223372036854775807\n[[stages]]\n").toList
    ∃ c, Config.read text = .ok c ∧
      ∃ s ∈ c.backoffs, (ofSettings s).checkedRecordAll [1000] = .error .stop := by
  intro text
  let s : BackoffSettings := ⟨60, 1, 9223372036854775807, 9223372036854775807⟩
  obtain ⟨c, hread, hs⟩ : ∃ c, Config.read text = .ok c ∧ s ∈ c.backoffs :=
    Config.exists_of_read (by decide +kernel)
  exact ⟨c, hread, s, hs, by decide⟩

end Tracker
end MailPolicy
