/-
What actions do to a shared score.

Only writes and resets touch the slots, only locks and releases touch the guards and their count;
everything else concerns those who wait.

* `Board.Happens` — what an action does, one case after the other;
* `Board.of_step` — the score, the guards and the counter after an action;
* `Board.slot?_attempt` — a value in a slot was there before, or the action wrote it;
* `Board.getElem?_waiters_of_step` — how a waiter goes on;
* `Board.Consistent` — the counter says how many guards are out, and each is out once;
* `Board.Reachable.consistent` — so it is in whatever can come about.
-/
import Mathlib.Data.List.Nodup
import MailPolicy.Score.Board

namespace MailPolicy

variable {α : Type}

namespace BoardAction

/-- What an action does to the score. -/
def onScore : BoardAction α → Score α → Score α
  | write _ index points, s => s.update index points
  | update index points, s => s.update index points
  | reset, s => s.reset
  | _, s => s

/-- What an action does to the guards that are out. -/
def onGuards : BoardAction α → List Nat → List Nat
  | lock guard, guards => guards ++ [guard]
  | release guard, guards => guards.erase guard
  | _, guards => guards

/-- What an action does to the count of guards. -/
def onWriters : BoardAction α → Nat → Nat
  | lock _, writers => writers + 1
  | release _, writers => writers - 1
  | _, writers => writers

/-- Whether an action is one of the holder of a guard. -/
def isWork : BoardAction α → Bool
  | write _ _ _ | release _ | signal => true
  | _ => false

/-- What an action asks of the guards that are out. -/
def Fits : BoardAction α → List Nat → Prop
  | lock guard, guards => guard ∉ guards
  | write guard _ _, guards => guard ∈ guards
  | release guard, guards => guard ∈ guards
  | _, _ => True

end BoardAction

namespace Waiter

/-- How a waiter can go on while the counter reads `writers`. -/
inductive Goes (writers : Nat) : Waiter → Waiter → Prop where
  | stay (w : Waiter) : Goes writers w w
  | hear (w : Waiter) : Goes writers w w.signal
  | leave (limit : Span) (due : Nat) (signalled : Bool) : writers = 0 →
      Goes writers (.registered limit due signalled) (.done .quiet)
  | park (limit : Span) (due : Nat) (signalled : Bool) :
      Goes writers (.registered limit due signalled) (.parked limit due signalled)
  | wake (limit : Span) (due : Nat) : Goes writers (.parked limit due true)
      (.registered limit due false)
  | expire (limit : Span) (due : Nat) : Goes writers (.parked limit due false) (.expired limit)
  | report (limit : Span) : Goes writers (.expired limit) (.done (.timeout writers limit))

/-- Whether a waiter has run out of time. -/
def isLate : Waiter → Bool
  | expired _ | done (.timeout _ _) => true
  | _ => false

variable {writers : Nat} {w w' : Waiter}

/-- A waiter that has run out of time goes on to its report and no further. -/
theorem Goes.isLate (h : w.Goes writers w') (hw : w.isLate = true) : w'.isLate = true := by
  cases h with
  | stay => exact hw
  | hear =>
    cases w with
    | registered limit due signalled | parked limit due signalled => cases hw
    | expired limit | done result => exact hw
  | report limit => rfl
  | leave | park | wake | expire => cases hw

theorem eq_done_of_result? {result : WaitResult} (h : w.result? = some result) :
    w = .done result := by
  cases w with
  | done _ => rw [Option.some.inj h]
  | registered | parked | expired => cases h

/-- A waiter that finds no guard out reads a counter of zero. -/
theorem Goes.quiet (h : w.Goes writers (.done .quiet)) : w = .done .quiet ∨ writers = 0 := by
  generalize hdone : Waiter.done .quiet = w' at h
  cases h with
  | stay => exact .inl rfl
  | hear =>
    cases w with
    | registered limit due signalled | parked limit due signalled => cases hdone
    | expired limit | done result => exact .inl rfl
  | leave limit due signalled hzero => exact .inr hzero
  | park | wake | expire | report => cases hdone

end Waiter

namespace Board

variable {b b' : Board α} {a : BoardAction α}

theorem attempt_eq_or (b : Board α) (a : BoardAction α) :
    b.attempt a = b ∨ b.step a = some (b.attempt a) := by
  unfold attempt
  cases b.step a with
  | none => exact .inl rfl
  | some b' => exact .inr rfl

/-- What can happen to a shared score, and what it leads to. -/
inductive Happens (b : Board α) : BoardAction α → Board α → Prop
  | lock (guard : Nat) : guard ∉ b.guards → Happens b (.lock guard)
      { b with writers := b.writers + 1, guards := b.guards ++ [guard] }
  | write (guard index : Nat) (points : α) : guard ∈ b.guards →
      Happens b (.write guard index points) { b with score := b.score.update index points }
  | update (index : Nat) (points : α) :
      Happens b (.update index points) { b with score := b.score.update index points }
  | reset : Happens b .reset { b with score := b.score.reset }
  | release (guard : Nat) : guard ∈ b.guards → Happens b (.release guard)
      { b with
        writers := b.writers - 1
        guards := b.guards.erase guard
        owed := if b.writers - 1 = 0 then b.owed + 1 else b.owed }
  | signal : 0 < b.owed →
      Happens b .signal { b with owed := b.owed - 1, waiters := b.waiters.map Waiter.signal }
  | enter (limit : Span) (due : Nat) : Happens b (.enter limit due)
      { b with waiters := b.waiters ++ [.registered limit due false] }
  | leave (waiter : Nat) (limit : Span) (due : Nat) (signalled : Bool) :
      b.waiters[waiter]? = some (.registered limit due signalled) → b.writers = 0 →
      Happens b (.read waiter) (b.setWaiter waiter (.done .quiet))
  | park (waiter : Nat) (limit : Span) (due : Nat) (signalled : Bool) :
      b.waiters[waiter]? = some (.registered limit due signalled) → b.writers ≠ 0 →
      Happens b (.read waiter) (b.setWaiter waiter (.parked limit due signalled))
  | wake (waiter : Nat) (limit : Span) (due : Nat) :
      b.waiters[waiter]? = some (.parked limit due true) →
      Happens b (.wake waiter) (b.setWaiter waiter (.registered limit due false))
  | expire (waiter now : Nat) (limit : Span) (due : Nat) :
      b.waiters[waiter]? = some (.parked limit due false) → due ≤ now →
      Happens b (.expire waiter now) (b.setWaiter waiter (.expired limit))
  | report (waiter : Nat) (limit : Span) : b.waiters[waiter]? = some (.expired limit) →
      Happens b (.report waiter) (b.setWaiter waiter (.done (.timeout b.writers limit)))

/-- Every step is one of the cases. -/
theorem happens_of_step (h : b.step a = some b') : Happens b a b' := by
  cases a with
  | lock guard =>
    obtain ⟨hfree, hb⟩ := Option.ite_none_left_eq_some.mp h
    cases hb
    exact .lock guard hfree
  | write guard index points =>
    obtain ⟨hheld, hb⟩ := Option.ite_none_right_eq_some.mp h
    cases hb
    exact .write guard index points hheld
  | release guard =>
    obtain ⟨hheld, hb⟩ := Option.ite_none_right_eq_some.mp h
    cases hb
    exact .release guard hheld
  | signal =>
    obtain ⟨howed, hb⟩ := Option.ite_none_right_eq_some.mp h
    cases hb
    exact .signal howed
  | update index points =>
    cases h
    exact .update index points
  | reset =>
    cases h
    exact .reset
  | enter limit due =>
    cases h
    exact .enter limit due
  | read waiter =>
    simp only [step] at h
    split at h
    · obtain rfl := Option.some.inj h
      by_cases hquiet : b.writers = 0
      · rw [if_pos hquiet]
        exact .leave waiter _ _ _ ‹_› hquiet
      · rw [if_neg hquiet]
        exact .park waiter _ _ _ ‹_› hquiet
    · cases h
  | wake waiter =>
    simp only [step] at h
    split at h <;> cases h
    exact .wake waiter _ _ ‹_›
  | report waiter =>
    simp only [step] at h
    split at h <;> cases h
    exact .report waiter _ ‹_›
  | expire waiter now =>
    simp only [step] at h
    split at h
    · obtain ⟨hdue, hb⟩ := Option.ite_none_right_eq_some.mp h
      cases hb
      exact .expire waiter now _ _ ‹_› hdue
    · cases h

/-- What an action that is possible asks for, and what it does apart from waiting. -/
theorem of_step (h : b.step a = some b') : a.Fits b.guards ∧ b'.score = a.onScore b.score ∧
    b'.guards = a.onGuards b.guards ∧ b'.writers = a.onWriters b.writers := by
  cases happens_of_step h with
  | lock guard hfree => exact ⟨hfree, rfl, rfl, rfl⟩
  | write guard index points hheld => exact ⟨hheld, rfl, rfl, rfl⟩
  | release guard hheld => exact ⟨hheld, rfl, rfl, rfl⟩
  | _ => exact ⟨trivial, rfl, rfl, rfl⟩

/-! ### Slots -/

theorem slot?_of_update {s : Score α} {index slot : Nat} {points x : α}
    (h : (s.update index points).slot? slot = some (some x)) :
    s.slot? slot = some (some x) ∨ slot = index ∧ x = points := by
  rcases eq_or_ne index slot with rfl | hne
  · right
    simp only [Score.update, Score.slot?, List.getElem?_set_self'] at h
    obtain ⟨_, _, hx⟩ := Option.map_eq_some_iff.mp h
    exact ⟨rfl, (Option.some.inj hx).symm⟩
  · left
    rwa [Score.slot?_update_of_ne s hne] at h

/-- A value in a slot was there before the action, or the action wrote it. -/
theorem slot?_attempt {slot : Nat} {x : α} (h : (b.attempt a).score.slot? slot = some (some x)) :
    b.score.slot? slot = some (some x) ∨ (∃ guard, a = .write guard slot x) ∨
      a = .update slot x := by
  rcases attempt_eq_or b a with heq | hstep
  · rw [heq] at h
    exact .inl h
  · obtain ⟨-, hscore, -, -⟩ := of_step hstep
    rw [hscore] at h
    cases a with
    | write guard index points =>
      rcases slot?_of_update h with hold | ⟨rfl, rfl⟩
      · exact .inl hold
      · exact .inr (.inl ⟨guard, rfl⟩)
    | update index points =>
      rcases slot?_of_update h with hold | ⟨rfl, rfl⟩
      · exact .inl hold
      · exact .inr (.inr rfl)
    | reset =>
      simp [BoardAction.onScore, Score.reset, Score.blank, Score.slot?, List.getElem?_replicate] at h
    | _ => exact .inl h

/-! ### Waiters -/

/-- The waiters after one of them went on. -/
theorem goes_setWaiter {writers waiter i : Nat} {v w : Waiter} (v' : Waiter)
    (hv : b.waiters[waiter]? = some v)
    (hgo : v.Goes writers v') (hw : b.waiters[i]? = some w) :
    ∃ w', (b.setWaiter waiter v').waiters[i]? = some w' ∧ w.Goes writers w' := by
  rcases eq_or_ne waiter i with rfl | hne
  · obtain ⟨hlt, -⟩ := List.getElem?_eq_some_iff.mp hv
    obtain rfl := Option.some.inj (hv.symm.trans hw)
    exact ⟨v', List.getElem?_set_self hlt, hgo⟩
  · exact ⟨w, (List.getElem?_set_ne hne).trans hw, .stay w⟩

/-- An action lets every waiter go on in one of the ways there are. -/
theorem getElem?_waiters_of_step (h : b.step a = some b') {i : Nat} {w : Waiter}
    (hw : b.waiters[i]? = some w) :
    ∃ w', b'.waiters[i]? = some w' ∧ w.Goes b.writers w' := by
  cases happens_of_step h with
  | signal _ => exact ⟨w.signal, by rw [List.getElem?_map, hw, Option.map_some], .hear w⟩
  | enter limit due =>
    obtain ⟨hlt, -⟩ := List.getElem?_eq_some_iff.mp hw
    exact ⟨w, (List.getElem?_append_left hlt).trans hw, .stay w⟩
  | leave waiter limit due signalled hwaiter hquiet =>
    exact goes_setWaiter _ hwaiter (.leave limit due signalled hquiet) hw
  | park waiter limit due signalled hwaiter _ =>
    exact goes_setWaiter _ hwaiter (.park limit due signalled) hw
  | wake waiter limit due hwaiter => exact goes_setWaiter _ hwaiter (.wake limit due) hw
  | expire waiter now limit due hwaiter _ => exact goes_setWaiter _ hwaiter (.expire limit due) hw
  | report waiter limit hwaiter => exact goes_setWaiter _ hwaiter (.report limit) hw
  | _ => exact ⟨w, hw, .stay w⟩

/-- Whether a waiter has parked. -/
def Parked (b : Board α) (waiter due : Nat) (limit : Span) : Prop :=
  ∃ signalled, b.waiters[waiter]? = some (.parked limit due signalled)

/-- Whoever works behind a guard leaves parked waiters where they are. -/
theorem Parked.attempt {waiter due : Nat} {limit : Span} (h : b.Parked waiter due limit)
    (ha : a.isWork = true) :
    (b.attempt a).Parked waiter due limit := by
  rcases attempt_eq_or b a with heq | hstep
  · rwa [heq]
  obtain ⟨signalled, hw⟩ := h
  generalize b.attempt a = b' at hstep ⊢
  cases happens_of_step hstep with
  | write _ _ _ _ | release _ _ => exact ⟨signalled, hw⟩
  | signal _ => exact ⟨true, by rw [List.getElem?_map, hw]; rfl⟩
  | _ => cases ha

/-- How a waiter with the instant `due` stands when it cannot go on at the instant `now`. -/
inductive Rests (now waiter due : Nat) (limit : Span) (b : Board α) : Prop where
  | parked : b.waiters[waiter]? = some (.parked limit due false) → now < due →
      Rests now waiter due limit b
  | done (result : WaitResult) : b.waiters[waiter]? = some (.done result) →
      Rests now waiter due limit b

section Rests

variable {now waiter due : Nat} {limit : Span}

/-- A parked waiter without a signal waits on, or its time is up and it reports. -/
theorem rests_of_parked (h : b.waiters[waiter]? = some (.parked limit due false)) :
    ((b.attempt (.expire waiter now)).attempt (.report waiter)).Rests now waiter due limit := by
  obtain ⟨hlt, -⟩ := List.getElem?_eq_some_iff.mp h
  have hexpire : b.attempt (.expire waiter now) =
      if due ≤ now then b.setWaiter waiter (.expired limit) else b := by
    rw [attempt, step, h]
    dsimp only
    split <;> rfl
  rw [hexpire]
  by_cases hdue : due ≤ now
  · have hexpired : (b.setWaiter waiter (.expired limit)).waiters[waiter]? =
      some (.expired limit) :=
      List.getElem?_set_self hlt
    obtain ⟨hlt', -⟩ := List.getElem?_eq_some_iff.mp hexpired
    rw [if_pos hdue, attempt, step, hexpired]
    exact .done _ (List.getElem?_set_self hlt')
  · rw [if_neg hdue, attempt, step, h]
    exact .parked h (Nat.lt_of_not_le hdue)

/-- A registered waiter that reads a counter of zero is done. -/
theorem quiet_of_registered {signalled : Bool}
    (h : b.waiters[waiter]? = some (.registered limit due signalled)) (hquiet : b.writers = 0) :
    (((b.attempt (.read waiter)).attempt (.expire waiter now)).attempt
      (.report waiter)).waiters[waiter]? = some (.done .quiet) := by
  obtain ⟨hlt, -⟩ := List.getElem?_eq_some_iff.mp h
  have hread : (b.attempt (.read waiter)).waiters[waiter]? = some (.done .quiet) := by
    rw [attempt, step, h]
    simp only [if_pos hquiet]
    exact List.getElem?_set_self hlt
  generalize b.attempt (.read waiter) = b' at hread
  simp only [attempt, step, hread, Option.getD_none]

/-- A registered waiter reads the counter, and is done or goes on as one that has parked. -/
theorem rests_of_registered (h : b.waiters[waiter]? = some (.registered limit due false)) :
    (((b.attempt (.read waiter)).attempt (.expire waiter now)).attempt (.report waiter)).Rests now
    waiter due limit := by
  by_cases hquiet : b.writers = 0
  · exact .done .quiet (quiet_of_registered h hquiet)
  · obtain ⟨hlt, -⟩ := List.getElem?_eq_some_iff.mp h
    have hread : (b.attempt (.read waiter)).waiters[waiter]? = some (.parked limit due false) := by
      rw [attempt, step, h]
      simp only [if_neg hquiet]
      exact List.getElem?_set_self hlt
    exact rests_of_parked hread

/-- **A waiter that goes on parks without a signal before its time is up, or it is done.** -/
theorem rests_advanceWaiter
    (h : b.waiters[waiter]? = some (.registered limit due false) ∨ b.Parked waiter due limit) :
    (advanceWaiter now b waiter).Rests now waiter due limit := by
  show ((((b.attempt (.wake waiter)).attempt (.read waiter)).attempt (.expire waiter now)).attempt
    (.report waiter)).Rests now waiter due limit
  rcases h with h | ⟨signalled, h⟩
  · have hwake : b.attempt (.wake waiter) = b := by simp only [attempt, step, h, Option.getD_none]
    rw [hwake]
    exact rests_of_registered h
  · cases signalled with
    | false =>
      -- There is nothing to wake up for and nothing to read.
      have hwake : b.attempt (.wake waiter) = b := by simp only [attempt, step, h, Option.getD_none]
      have hread : b.attempt (.read waiter) = b := by simp only [attempt, step, h, Option.getD_none]
      rw [hwake, hread]
      exact rests_of_parked h
    | true =>
      obtain ⟨hlt, -⟩ := List.getElem?_eq_some_iff.mp h
      have hwake : b.attempt (.wake waiter) = b.setWaiter waiter (.registered limit due false) := by
        rw [attempt, step, h]
        rfl
      rw [hwake]
      exact rests_of_registered (List.getElem?_set_self hlt)

end Rests

/-! ### Guards -/

/-- Whether the counter says how many guards are out, each of them once. -/
structure Consistent (b : Board α) : Prop where
  writers_eq : b.writers = b.guards.length
  nodup : b.guards.Nodup

theorem consistent_blank (slots : Nat) : (blank slots : Board α).Consistent :=
  ⟨rfl, List.nodup_nil⟩

theorem Consistent.step (hb : b.Consistent) (h : b.step a = some b') : b'.Consistent := by
  obtain ⟨hfits, -, hguards, hwriters⟩ := of_step h
  constructor
  · rw [hguards, hwriters, hb.writers_eq]
    cases a with
    | lock guard => simp [BoardAction.onWriters, BoardAction.onGuards]
    | release guard =>
      rw [BoardAction.onGuards, List.length_erase_of_mem hfits, BoardAction.onWriters]
    | _ => rfl
  · rw [hguards]
    cases a with
    | lock guard =>
      exact List.nodup_append'.mpr
        ⟨hb.nodup, List.nodup_singleton guard, List.disjoint_singleton.mpr hfits⟩
    | release guard => exact hb.nodup.erase guard
    | _ => exact hb.nodup

/-- A guard stays out when another is given back. -/
theorem Consistent.mem_of_release (hb : b.Consistent) {slot i : Nat}
    (h : b.step (.release slot) = some b')
    (hne : i ≠ slot) (hmem : i ∈ b.guards) : i ∈ b'.guards := by
  obtain ⟨-, -, hguards, -⟩ := of_step h
  rw [hguards, BoardAction.onGuards, hb.nodup.mem_erase_iff]
  exact ⟨hne, hmem⟩

theorem Reachable.consistent {slots : Nat} (h : Reachable slots b) : b.Consistent := by
  induction h with
  | blank => exact consistent_blank slots
  | step a _ hs ih => exact ih.step hs

end Board
end MailPolicy
