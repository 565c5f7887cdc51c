/-
The failures of a resource, one after the other.

Failures are recorded at instants that never go back.  Each falls into the window that is open or opens
one, and may start a back-off.

* `Tracker.Suffers` — failures recorded from a tracker on, and the tracker that they leave;
* `Tracker.Suffers.exists_of_append` — a history cut in two;
* `Tracker.Suffers.stems` — no history changes the limits or leaves a full window open;
* `Tracker.Suffers.exists_opening` — an open window was opened by a failure;
* `Tracker.exists_last_started` — the last failure that started a back-off;
* `Tracker.recordAll?` — the history that failures at given instants make.
-/
import Mathlib.Data.List.Induction
import MailPolicy.Proofs.Backoff.Allowance

namespace MailPolicy
namespace Tracker

variable {t u v : Tracker} {now : Nat} {started : Bool} {s : BackoffSettings}

/-! ### What a record leaves -/

/-- A failure that starts nothing is counted and that is all. -/
theorem eq_count_of_record? (h : t.record? now = some (u, false)) : u = t.count now := by
  rcases record?_cases h with ⟨-, hin, -, rfl⟩ | ⟨-, hout, -, rfl⟩ | ⟨hstarted, -, -⟩
  · exact (count_of_inWindow hin).symm
  · exact (count_of_not_inWindow hout).symm
  · cases hstarted

/-- A failure that starts a back-off is counted, and the window is full. -/
theorem backOff?_of_record? (h : t.record? now = some (u, true)) :
    t.maxErrors ≤ (t.count now).errors ∧ (t.count now).backOff? now = some u := by
  rcases record?_cases h with ⟨hstarted, -, -, -⟩ | ⟨hstarted, -, -, -⟩ | ⟨-, hfull, hback⟩
  · cases hstarted
  · cases hstarted
  · exact ⟨hfull, hback⟩

/-- A failure lies in the window that was open, or in one that it opens. -/
theorem windowStart_count (t : Tracker) (now : Nat) :
    (t.inWindow now = true ∧ (t.count now).windowStart = t.windowStart) ∨
      (t.inWindow now = false ∧ (t.count now).windowStart = some now) := by
  cases hin : t.inWindow now with
  | true => exact .inl ⟨rfl, by rw [count_of_inWindow hin]⟩
  | false => exact .inr ⟨rfl, by rw [count_of_not_inWindow hin]⟩

theorem inWindow_eq_true_iff :
    t.inWindow now = true ↔ ∃ opened, t.windowStart = some opened ∧ now ≤ opened + t.timeFrame := by
  unfold inWindow
  cases t.windowStart with
  | none => simp
  | some opened =>
    simp only [Option.any_some, decide_eq_true_eq, Option.some.injEq, exists_eq_left']
    omega

theorem exists_windowStart_count (hopened_le : ∀ opened, t.windowStart = some opened → opened ≤ now) :
    ∃ opened, (t.count now).windowStart = some opened ∧ opened ≤ now := by
  rcases windowStart_count t now with ⟨hin, hsame⟩ | ⟨-, hnew⟩
  · obtain ⟨opened, hopened, -⟩ := inWindow_eq_true_iff.mp hin
    exact ⟨opened, hsame.trans hopened, hopened_le opened hopened⟩
  · exact ⟨now, hnew, Nat.le_refl now⟩

/-! ### Histories -/

/-- A failure that was recorded. -/
structure Failure where
  /-- When it was recorded. -/
  time : Nat
  /-- Whether it started a back-off. -/
  started : Bool
deriving DecidableEq, Repr

/-- Nothing has been started, or there is a last failure that started a back-off. -/
theorem exists_last_started (failures : List Failure) :
    (∀ f ∈ failures, f.started = false) ∨
    ∃ before last after, failures = before ++ ⟨last, true⟩ :: after ∧
      ∀ f ∈ after, f.started = false := by
  induction failures with
  | nil => exact .inl nofun
  | cons f rest ih =>
    rcases ih with hnone | ⟨before, last, after, rfl, hafter⟩
    · obtain ⟨time, _ | _⟩ := f
      · exact .inl (List.forall_mem_cons.mpr ⟨rfl, hnone⟩)
      · exact .inr ⟨[], time, rest, rfl, hnone⟩
    · exact .inr ⟨f :: before, last, after, rfl, hafter⟩

/-- Failures that are recorded one after the other, from the tracker `t` on, at instants that never go
back; and the tracker that they leave. -/
inductive Suffers (t : Tracker) : List Failure → Tracker → Prop
  | start : Suffers t [] t
  | next {failures : List Failure} {u v : Tracker} {now : Nat} {started : Bool} :
      Suffers t failures u → (∀ f ∈ failures, f.time ≤ now) → u.record? now = some (v, started) →
      Suffers t (failures ++ [⟨now, started⟩]) v

namespace Suffers

variable {failures before after : List Failure} {f : Failure}

/-- The last failure of a history. -/
theorem of_concat (h : t.Suffers (failures ++ [f]) v) :
    ∃ u, t.Suffers failures u ∧ (∀ g ∈ failures, g.time ≤ f.time) ∧
      u.record? f.time = some (v, f.started) := by
  generalize hall : failures ++ [f] = all at h
  cases h with
  | start => simp at hall
  | next hbefore hlate hr =>
    obtain ⟨rfl, hf⟩ := List.append_inj' hall rfl
    obtain rfl := List.singleton_inj.mp hf
    exact ⟨_, hbefore, hlate, hr⟩

/-- A history cut in two. -/
theorem exists_of_append (h : t.Suffers (before ++ after) v) :
    ∃ u, t.Suffers before u ∧ u.Suffers after v := by
  induction after using List.reverseRecOn generalizing v with
  | nil => exact ⟨v, by rwa [List.append_nil] at h, .start⟩
  | append_singleton after f ih =>
    rw [← List.append_assoc] at h
    obtain ⟨w, hw, hlate, hr⟩ := h.of_concat
    obtain ⟨u, hbefore, hafter⟩ := ih hw
    exact ⟨u, hbefore, hafter.next (fun g hg => hlate g (List.mem_append_right _ hg)) hr⟩

/-- The instants never go back. -/
theorem time_le_of_append (h : t.Suffers (before ++ f :: after) v) : ∀ g ∈ before, g.time ≤ f.time := by
  rw [List.append_cons] at h
  obtain ⟨u, hfirst, -⟩ := h.exists_of_append
  obtain ⟨-, -, hlate, -⟩ := hfirst.of_concat
  exact hlate

/-- A failure before all others. -/
theorem cons (h : u.Suffers failures v) (hr : t.record? now = some (u, started))
    (hlate : ∀ f ∈ failures, now ≤ f.time) : t.Suffers (⟨now, started⟩ :: failures) v := by
  induction h with
  | start => exact Suffers.start.next nofun hr
  | @next failures w v later begun _ hsorted hlast ih =>
    have hfirst := ih fun f hf => hlate f (List.mem_append_left _ hf)
    refine hfirst.next (fun f hf => ?_) hlast
    rcases List.mem_cons.mp hf with rfl | hf
    · exact hlate ⟨later, begun⟩ List.mem_concat_self
    · exact hsorted f hf

theorem stems (h : t.Suffers failures u) (hs : Stems s t) : Stems s u := by
  induction h with
  | start => exact hs
  | next _ _ hr ih => exact ih.record? hr

theorem stems_of_fresh (h : (ofSettings s).Suffers failures t) : Stems s t :=
  h.stems (stems_ofSettings s)

theorem sameLimits (h : t.Suffers failures u) : t.SameLimits u := by
  induction h with
  | start => exact ⟨rfl, rfl, rfl, rfl, rfl⟩
  | next _ _ hr ih => exact ih.trans (sameLimits_record? hr)

/-- An open window was opened by a failure. -/
theorem exists_opening (h : t.Suffers failures u) (hclosed : t.windowStart = none) :
    ∀ opened, u.windowStart = some opened → ∃ f ∈ failures, f.time = opened := by
  induction h with
  | start =>
    intro opened hopened
    rw [hclosed] at hopened
    cases hopened
  | @next failures u v now started _ _ hr ih =>
    intro opened hopened
    rcases record?_cases hr with ⟨-, -, -, rfl⟩ | ⟨-, -, -, rfl⟩ | ⟨-, -, hback⟩
    · obtain ⟨f, hf, htime⟩ := ih opened hopened
      exact ⟨f, List.mem_append_left _ hf, htime⟩
    · exact ⟨_, List.mem_concat_self, Option.some.inj hopened⟩
    · obtain ⟨-, rfl⟩ := backOff?_eq_some_iff.mp hback
      cases hopened

theorem opened_le (h : t.Suffers failures u) (hclosed : t.windowStart = none)
    (hlate : ∀ f ∈ failures, f.time ≤ now) : ∀ opened, u.windowStart = some opened → opened ≤ now := by
  intro opened hopened
  obtain ⟨f, hf, rfl⟩ := h.exists_opening hclosed opened hopened
  exact hlate f hf

end Suffers

/-- Records failures at the given instants one after the other. -/
def recordAll? (t : Tracker) : List Nat → Option (List Failure × Tracker)
  | [] => some ([], t)
  | now :: later => do
    let (u, started) ← t.record? now
    let (failures, v) ← u.recordAll? later
    return (⟨now, started⟩ :: failures, v)

theorem recordAll?_cons_eq_some_iff {later : List Nat} {failures : List Failure} :
    t.recordAll? (now :: later) = some (failures, v) ↔
      ∃ u started rest, t.record? now = some (u, started) ∧ u.recordAll? later = some (rest, v) ∧
        ⟨now, started⟩ :: rest = failures := by
  simp only [recordAll?, Option.bind_eq_bind, Option.bind_eq_some_iff, Option.pure_def,
    Option.some.injEq, Prod.mk.injEq, Prod.exists]
  constructor
  · rintro ⟨u, started, hr, rest, w, hrest, rfl, rfl⟩
    exact ⟨u, started, rest, hr, hrest, rfl⟩
  · rintro ⟨u, started, rest, hr, hrest, rfl⟩
    exact ⟨u, started, hr, rest, v, hrest, rfl, rfl⟩

/-- Failures at instants that never go back are a history, if the clock suffices for all of them. -/
theorem suffers_of_recordAll? {times : List Nat} {failures : List Failure}
    (hsorted : times.Pairwise (· ≤ ·)) (h : t.recordAll? times = some (failures, v)) :
    failures.map (·.time) = times ∧ t.Suffers failures v := by
  induction times generalizing t failures with
  | nil =>
    cases h
    exact ⟨rfl, .start⟩
  | cons now later ih =>
    obtain ⟨u, started, rest, hr, hrest, rfl⟩ := recordAll?_cons_eq_some_iff.mp h
    obtain ⟨hfirst, hlater⟩ := List.pairwise_cons.mp hsorted
    obtain ⟨htimes, hsuffers⟩ := ih hlater hrest
    refine ⟨by rw [List.map_cons, htimes], hsuffers.cons hr fun f hf => hfirst f.time ?_⟩
    rw [← htimes]
    exact List.mem_map_of_mem hf

end Tracker
end MailPolicy
