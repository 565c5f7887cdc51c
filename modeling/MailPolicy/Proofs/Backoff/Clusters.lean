/-
Clusters of failures.

A window is opened by a failure and stays open for a fixed time, so a cluster can be split between a
window that is over and a fresh one.  Still, a back-off starts only at the end of a cluster, whose
failures count for nothing else, and a cluster of nearly twice the size cannot be missed.

* `Tracker.Tallied` — which failures count in the open window;
* `Tracker.Tallied.next` — what one more failure makes of them;
* `Tracker.spare` — how many more failures there can be up to an instant before a back-off starts;
* `Tracker.Suffers.length_le_spare` — failures that start nothing use them up;
* `Tracker.Suffers.started_of_clusters` — **back-offs start at the end of clusters**, and every large
  cluster has one.
-/
import MailPolicy.Proofs.Backoff.History

namespace MailPolicy
namespace Tracker

variable {t u : Tracker} {now last : Nat} {started : Bool} {s : BackoffSettings}

/-! ### The failures that count -/

/-- Whether the failures `counted` are those in the open window, after the failures `past`, which have
been enough for the back-offs that they started. -/
structure Tallied (t : Tracker) (past counted : List Failure) : Prop where
  quiet : ∀ f ∈ counted, f.started = false
  length_eq : counted.length = t.windowStart.elim 0 fun _ => t.errors
  opened_le : ∀ opened, t.windowStart = some opened → ∀ f ∈ counted, opened ≤ f.time
  enough : t.maxErrors * past.countP (·.started) ≤ past.length

theorem tallied_ofSettings (s : BackoffSettings) : (ofSettings s).Tallied [] [] :=
  ⟨nofun, rfl, nofun, Nat.le_refl 0⟩

namespace Tallied

variable {past counted : List Failure}

theorem length_of_inWindow (h : t.Tallied past counted) (hin : t.inWindow now = true) :
    counted.length = t.errors := by
  obtain ⟨opened, hopened, -⟩ := inWindow_eq_true_iff.mp hin
  rw [h.length_eq, hopened]
  rfl

theorem countP_started (h : t.Tallied past counted) : counted.countP (·.started) = 0 := by
  rw [List.countP_eq_zero]
  intro f hf
  simp [h.quiet f hf]

/-- A back-off starts at the end of a cluster that has counted for nothing yet. -/
theorem exists_cluster (h : t.Tallied past counted) (hs : Stems s t)
    (hr : t.record? now = some (u, true)) :
    ∃ old cluster, counted = old ++ cluster ∧ cluster.length + 1 = t.maxErrors ∧
      ∀ f ∈ cluster, now ≤ f.time + t.timeFrame := by
  obtain ⟨hfull, -⟩ := backOff?_of_record? hr
  have hone := hs.one_le_maxErrors
  cases hin : t.inWindow now with
  | true =>
    have hlength := h.length_of_inWindow hin
    obtain ⟨opened, hopened, hnow⟩ := inWindow_eq_true_iff.mp hin
    have hroom := (hs.open_window opened hopened).2
    rw [count_of_inWindow hin] at hfull
    dsimp only at hfull
    refine ⟨[], counted, rfl, by omega, ?_⟩
    intro f hf
    have hle := h.opened_le opened hopened f hf
    omega
  | false =>
    -- A window that one failure fills.
    rw [count_of_not_inWindow hin] at hfull
    dsimp only at hfull
    refine ⟨counted, [], (List.append_nil _).symm, ?_, nofun⟩
    simp only [List.length_nil]
    omega

/-- What one more failure makes of those that count. -/
theorem next (h : t.Tallied past counted) (hs : Stems s t)
    (hopened_le : ∀ opened, t.windowStart = some opened → opened ≤ now)
    (hr : t.record? now = some (u, started)) :
    ∃ past' counted', past ++ counted ++ [⟨now, started⟩] = past' ++ counted' ∧
      u.Tallied past' counted' := by
  have hquiet := h.countP_started
  have henough := h.enough
  rcases record?_cases hr with ⟨rfl, hin, -, rfl⟩ | ⟨rfl, -, -, rfl⟩ | ⟨rfl, -, hback⟩
  · -- One more that counts.
    have hlength := h.length_of_inWindow hin
    obtain ⟨opened, hopened, -⟩ := inWindow_eq_true_iff.mp hin
    refine ⟨past, counted ++ [⟨now, false⟩], List.append_assoc .., ?_, ?_, ?_, henough⟩
    · intro f hf
      rcases List.mem_append.mp hf with hf | hf
      · exact h.quiet f hf
      · rw [List.mem_singleton.mp hf]
    · simp [hopened, hlength]
    · intro opened' hopened' f hf
      rcases List.mem_append.mp hf with hf | hf
      · exact h.opened_le opened' hopened' f hf
      · rw [List.mem_singleton.mp hf]
        exact hopened_le opened' hopened'
  · -- The first that counts in a window of its own.
    refine ⟨past ++ counted, [⟨now, false⟩], rfl, ?_, rfl, ?_, ?_⟩
    · simp
    · simp
    · rw [List.countP_append, hquiet, Nat.add_zero, List.length_append]
      dsimp only
      rw [(sameLimits_decay t now).maxErrors_eq]
      omega
  · -- All that count have served.
    obtain ⟨old, cluster, hcounted, hlength, -⟩ := h.exists_cluster hs hr
    have hlimits := sameLimits_record? hr
    have hle : t.maxErrors ≤ counted.length + 1 := by
      rw [hcounted, List.length_append]
      omega
    refine ⟨past ++ counted ++ [⟨now, true⟩], [], (List.append_nil _).symm, nofun, ?_, nofun, ?_⟩
    · obtain ⟨-, rfl⟩ := backOff?_eq_some_iff.mp hback
      rfl
    · simp only [List.countP_append, hquiet, List.length_append, hlimits.maxErrors_eq,
        List.countP_singleton, List.length_singleton, if_true, Nat.add_zero, Nat.mul_add, Nat.mul_one]
      omega

end Tallied

theorem Suffers.exists_tallied {failures : List Failure} (h : (ofSettings s).Suffers failures t) :
    ∃ past counted, failures = past ++ counted ∧ t.Tallied past counted := by
  induction h with
  | start => exact ⟨[], [], rfl, tallied_ofSettings s⟩
  | next hbefore hlate hr ih =>
    obtain ⟨past, counted, rfl, htallied⟩ := ih
    exact htallied.next hbefore.stems_of_fresh (hbefore.opened_le rfl hlate) hr

/-! ### Failures without a back-off -/

/-- How many more failures there can be up to the instant `last` before one of them starts a back-off,
when no window that is opened from now on is over by then. -/
def spare (t : Tracker) (last : Nat) : Nat :=
  match t.windowStart with
  | none => t.maxErrors - 1
  | some opened =>
    (if last ≤ opened + t.timeFrame then t.maxErrors - 1 else 2 * (t.maxErrors - 1)) - t.errors

theorem Stems.spare_lt (h : Stems s t) (last : Nat) : t.spare last < max 1 (2 * t.maxErrors - 2) := by
  have hone := h.one_le_maxErrors
  unfold spare
  cases hopened : t.windowStart with
  | none =>
    dsimp only
    omega
  | some opened =>
    have herrors := h.open_window opened hopened
    dsimp only
    split <;> omega

/-- Each failure that starts nothing uses one up. -/
theorem Stems.spare_record?_lt (h : Stems s t) (hlast : now ≤ last) (hframe : last ≤ now + t.timeFrame)
    (hr : t.record? now = some (u, false)) : u.spare last < t.spare last := by
  rcases record?_cases hr with ⟨-, hin, hroom, rfl⟩ | ⟨-, hout, hroom, rfl⟩ | ⟨hstarted, -, -⟩
  · obtain ⟨opened, hopened, -⟩ := inWindow_eq_true_iff.mp hin
    simp only [spare, hopened]
    split <;> omega
  · obtain ⟨htime, hmax, -⟩ := sameLimits_decay t now
    -- The window that was open is over before `last`, and the one that this failure opens is not.
    simp only [spare, htime, hmax, if_pos hframe]
    cases hopened : t.windowStart with
    | none =>
      dsimp only
      omega
    | some opened =>
      have herrors := h.open_window opened hopened
      have hover : ¬last ≤ opened + t.timeFrame := by
        intro hle
        rw [inWindow_eq_true_iff.mpr ⟨opened, hopened, by omega⟩] at hout
        cases hout
      simp only [if_neg hover]
      omega
  · cases hstarted

/-- Failures in an interval no longer than a window, none of which starts a back-off, use up as many. -/
theorem Suffers.length_le_spare {failures : List Failure} (h : t.Suffers failures u) (hs : Stems s t)
    (hnone : ∀ f ∈ failures, f.started = false)
    (hwithin : ∀ f ∈ failures, f.time ≤ last ∧ last ≤ f.time + t.timeFrame) :
    failures.length + u.spare last ≤ t.spare last := by
  induction h with
  | start => simp
  | @next failures v w now started hbefore _ hr ih =>
    obtain rfl := hnone ⟨now, started⟩ List.mem_concat_self
    obtain ⟨hlast, hframe⟩ := hwithin ⟨now, false⟩ List.mem_concat_self
    have hle := ih (fun f hf => hnone f (List.mem_append_left _ hf))
      fun f hf => hwithin f (List.mem_append_left _ hf)
    have hlt := (hbefore.stems hs).spare_record?_lt hlast
      (by rw [hbefore.sameLimits.timeFrame_eq]; exact hframe) hr
    rw [List.length_append, List.length_singleton]
    omega

/-! ### Back-offs and clusters -/

namespace Suffers

variable {failures before after between block : List Failure} {first : Nat}

/-- The failures that count toward a back-off are the last ones, lie within a window, and count toward no
other. -/
theorem exists_cluster (h : (ofSettings s).Suffers (before ++ ⟨now, true⟩ :: after) t) :
    ∃ earlier cluster, before = earlier ++ cluster ∧
      cluster.length + 1 = (ofSettings s).maxErrors ∧
      ∀ f ∈ cluster, f.started = false ∧ now ≤ f.time + (ofSettings s).timeFrame ∧ f.time ≤ now := by
  have hlate := h.time_le_of_append
  rw [List.append_cons] at h
  obtain ⟨v, hfirst, -⟩ := h.exists_of_append
  obtain ⟨w, hbefore, -, hr⟩ := hfirst.of_concat
  have hlimits := hbefore.sameLimits
  obtain ⟨past, counted, rfl, htallied⟩ := hbefore.exists_tallied
  obtain ⟨old, cluster, rfl, hlength, hwithin⟩ :=
    htallied.exists_cluster hbefore.stems_of_fresh hr
  rw [hlimits.maxErrors_eq] at hlength
  rw [hlimits.timeFrame_eq] at hwithin
  refine ⟨past ++ old, cluster, (List.append_assoc ..).symm, hlength, ?_⟩
  intro f hf
  have hmem : f ∈ old ++ cluster := List.mem_append_right old hf
  exact ⟨htallied.quiet f hmem, hwithin f hf, hlate f (List.mem_append_right past hmem)⟩

/-- No failure counts toward two back-offs. -/
theorem le_length_between {a b : Nat}
    (h : (ofSettings s).Suffers (before ++ ⟨a, true⟩ :: between ++ ⟨b, true⟩ :: after) t) :
    (ofSettings s).maxErrors ≤ between.length + 1 := by
  obtain ⟨earlier, cluster, hcut, hlength, hquiet⟩ := h.exists_cluster
  by_contra hshort
  -- Otherwise the first back-off would be started within the cluster of the second.
  have hsuffix : ⟨a, true⟩ :: between <:+ cluster := by
    refine List.suffix_of_suffix_length_le (List.suffix_append before _) ?_ ?_
    · rw [hcut]
      exact List.suffix_append earlier cluster
    · rw [List.length_cons]
      omega
  have hstarted := (hquiet ⟨a, true⟩ (hsuffix.subset List.mem_cons_self)).1
  cases hstarted

theorem countP_started_le (h : (ofSettings s).Suffers failures t) :
    failures.countP (·.started) ≤ failures.length / (ofSettings s).maxErrors := by
  have hlimits := h.sameLimits
  have hone := (stems_ofSettings s).one_le_maxErrors
  obtain ⟨past, counted, rfl, htallied⟩ := h.exists_tallied
  have henough := htallied.enough
  rw [hlimits.maxErrors_eq, Nat.mul_comm] at henough
  rw [Nat.le_div_iff_mul_le hone, List.countP_append, htallied.countP_started, List.length_append]
  exact Nat.le_trans henough (Nat.le_add_right _ _)

/-- A large cluster has a failure that starts a back-off. -/
theorem exists_started (h : (ofSettings s).Suffers (before ++ block ++ after) t)
    (hlong : max 1 (2 * (ofSettings s).maxErrors - 2) ≤ block.length)
    (hwithin : ∀ f ∈ block, first ≤ f.time ∧ f.time ≤ first + (ofSettings s).timeFrame) :
    ∃ f ∈ block, f.started = true := by
  obtain ⟨v, hblock, -⟩ := h.exists_of_append
  obtain ⟨w, hbefore, hblock⟩ := hblock.exists_of_append
  have hstems := hbefore.stems_of_fresh
  by_contra hnone
  push Not at hnone
  have hle : block.length + v.spare (first + (ofSettings s).timeFrame) ≤
      w.spare (first + (ofSettings s).timeFrame) := by
    refine hblock.length_le_spare hstems (fun f hf => Bool.eq_false_iff.mpr (hnone f hf)) ?_
    intro f hf
    have hclose := hwithin f hf
    rw [hbefore.sameLimits.timeFrame_eq]
    omega
  have hlt := hstems.spare_lt (first + (ofSettings s).timeFrame)
  rw [hbefore.sameLimits.maxErrors_eq] at hlt
  omega

/-- Many failures that lie close start many back-offs. -/
theorem le_countP_started {k : Nat} (h : (ofSettings s).Suffers failures t)
    (hlong : k * max 1 (2 * (ofSettings s).maxErrors - 2) ≤ failures.length)
    (hwithin : ∀ f ∈ failures, first ≤ f.time ∧ f.time ≤ first + (ofSettings s).timeFrame) :
    k ≤ failures.countP (·.started) := by
  induction k generalizing failures t with
  | zero => exact Nat.zero_le _
  | succ k ih =>
    rw [Nat.succ_mul] at hlong
    obtain ⟨early, late, rfl, hlength⟩ : ∃ early late, failures = early ++ late ∧
        early.length = k * max 1 (2 * (ofSettings s).maxErrors - 2) := by
      refine ⟨_, _, (List.take_append_drop (k * max 1 (2 * (ofSettings s).maxErrors - 2)) failures).symm, ?_⟩
      rw [List.length_take]
      omega
    obtain ⟨u, hearly, -⟩ := h.exists_of_append
    have hfew := ih hearly (Nat.le_of_eq hlength.symm)
      fun f hf => hwithin f (List.mem_append_left late hf)
    have hone : 0 < late.countP (·.started) := by
      rw [List.countP_pos_iff]
      rw [← List.append_nil (early ++ late)] at h
      refine h.exists_started ?_ fun f hf => hwithin f (List.mem_append_right early hf)
      rw [List.length_append] at hlong
      omega
    rw [List.countP_append]
    omega

/-- **Back-offs start at the end of clusters.**  A failure starts one only if it and the failures before
it that fill a window lie no further apart than a window is long; none of them counts toward another
back-off; and among nearly twice as many that lie so close, one starts a back-off. -/
theorem started_of_clusters (h : (ofSettings s).Suffers failures t) :
    (∀ before now after, failures = before ++ ⟨now, true⟩ :: after →
      ∃ earlier cluster, before = earlier ++ cluster ∧
        cluster.length + 1 = (ofSettings s).maxErrors ∧
        ∀ f ∈ cluster, f.started = false ∧ now ≤ f.time + (ofSettings s).timeFrame ∧ f.time ≤ now) ∧
    (∀ before a between b after,
      failures = before ++ ⟨a, true⟩ :: between ++ ⟨b, true⟩ :: after →
      (ofSettings s).maxErrors ≤ between.length + 1) ∧
    failures.countP (·.started) ≤ failures.length / (ofSettings s).maxErrors ∧
    (∀ before block after first, failures = before ++ block ++ after →
      max 1 (2 * (ofSettings s).maxErrors - 2) ≤ block.length →
      (∀ f ∈ block, first ≤ f.time ∧ f.time ≤ first + (ofSettings s).timeFrame) →
      ∃ f ∈ block, f.started = true) := by
  refine ⟨?_, ?_, h.countP_started_le, ?_⟩
  · rintro before now after rfl
    exact h.exists_cluster
  · rintro before a between b after rfl
    exact h.le_length_between
  · rintro before block after first rfl hlong hwithin
    exact h.exists_started hlong hwithin

/-- The first of four failures still counts in a window that is then over; the other three fill one. -/
theorem started_of_clusters_four :
    let block : List Failure := [⟨50000, false⟩, ⟨70000, false⟩, ⟨71000, false⟩, ⟨72000, true⟩]
    ∃ t, (ofSettings { maxErrors := 3 }).Suffers (⟨0, false⟩ :: block) t ∧
      (∃ f ∈ block, f.started = true) ∧ (⟨0, false⟩ :: block).countP (·.started) ≤ 5 / 3 := by
  intro block
  have hrun : (ofSettings { maxErrors := 3 }).recordAll? [0, 50000, 70000, 71000, 72000] =
      some (⟨0, false⟩ :: block, _) := rfl
  obtain ⟨-, h⟩ := suffers_of_recordAll? (by decide) hrun
  obtain ⟨-, -, hcount, hcluster⟩ := h.started_of_clusters
  exact ⟨_, h, hcluster [⟨0, false⟩] block [] 50000 rfl (by decide) (by decide), hcount⟩

end Suffers
end Tracker
end MailPolicy
