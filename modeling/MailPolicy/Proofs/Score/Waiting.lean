/-
Waiting for the guards of a shared score.

A waiter must not leave while a guard is out, and must not sleep on when none is.  The second is
at risk because a release lowers the counter and gives its signal in two steps: in between, the
counter reads zero and those who parked before have heard nothing.

* `Board.Alert` — with the counter at zero, whoever sleeps without a signal is still owed one;
* `Board.eq_read_of_leaves` — a waiter leaves by reading a counter of zero, and no other way;
* `Board.slot?_of_run` — what was written last is what a slot holds;
* `Board.run_waiting` — all of it, for every run from the start;
* `Board.advanceWaiter_quiet` — with no guard out and no signal owed, every waiter gets to leave.
-/
import MailPolicy.Proofs.Score.Board

namespace MailPolicy

variable {α : Type}

/-- Whether a waiter is parked and has no signal. -/
def Waiter.sleeps : Waiter → Bool
  | parked _ _ false => true
  | _ => false

namespace BoardAction

/-- The slot that an action writes, and the value. -/
def put? : BoardAction α → Option (Nat × α)
  | write _ index points => some (index, points)
  | update index points => some (index, points)
  | _ => none

/-- Whether an action replaces what a slot holds. -/
def touches (a : BoardAction α) (slot : Nat) : Bool :=
  match a with
  | reset => true
  | a => a.put?.any (·.1 == slot)

end BoardAction

namespace Board

variable {b b' : Board α} {a : BoardAction α}

/-! ### Signals -/

/-- Whether nobody sleeps while no guard is out, unless a signal is still owed. -/
def Alert (b : Board α) : Prop :=
  b.writers = 0 → b.owed = 0 → ∀ w ∈ b.waiters, w.sleeps = false

theorem Alert.setWaiter (h : b.Alert) (waiter : Nat) {w : Waiter} (hw : w.sleeps = false) :
    (b.setWaiter waiter w).Alert := by
  intro hquiet howed v hv
  rcases List.mem_or_eq_of_mem_set hv with hold | rfl
  · exact h hquiet howed v hold
  · exact hw

/-- **No action puts a waiter to sleep for good.** -/
theorem Alert.step (hb : b.Alert) (h : b.step a = some b') : b'.Alert := by
  cases happens_of_step h with
  | lock guard _ =>
    intro hquiet
    cases hquiet
  | release guard _ =>
    -- The release that brings the counter to zero is the one that owes a signal.
    intro hquiet howed
    simp only at hquiet howed
    rw [if_pos hquiet] at howed
    omega
  | signal _ =>
    intro _ _ w hw
    obtain ⟨v, -, rfl⟩ := List.mem_map.mp hw
    cases v <;> rfl
  | enter limit due =>
    intro hquiet howed w hw
    rcases List.mem_append.mp hw with hold | hnew
    · exact hb hquiet howed w hold
    · rw [List.mem_singleton.mp hnew]
      rfl
  | park waiter limit due signalled _ hbusy =>
    -- A waiter parks only after it has read a counter that is not zero.
    intro hquiet
    exact absurd hquiet hbusy
  | leave | wake | expire | report => exact hb.setWaiter _ rfl
  | _ => exact hb

theorem Reachable.alert {slots : Nat} (h : Reachable slots b) : b.Alert := by
  induction h with
  | blank =>
    intro _ _ w hw
    cases hw
  | step a _ hs ih => exact ih.step hs

/-! ### Leaving -/

theorem eq_of_getElem?_setWaiter {waiter i : Nat} {v w : Waiter}
    (h : (b.setWaiter waiter v).waiters[i]? = some w) (hold : b.waiters[i]? ≠ some w) :
    i = waiter ∧ v = w := by
  rcases eq_or_ne waiter i with rfl | hne
  · obtain ⟨hlt, -⟩ := List.getElem?_eq_some_iff.mp h
    rw [setWaiter, List.length_set] at hlt
    rw [setWaiter, List.getElem?_set_self hlt] at h
    exact ⟨rfl, Option.some.inj h⟩
  · rw [setWaiter, List.getElem?_set_ne hne] at h
    exact absurd h hold

/-- A waiter leaves when it reads a counter of zero. -/
theorem eq_read_of_leaves {waiter : Nat} (h : b.step a = some b')
    (hleft : b'.waiters[waiter]? = some (.done .quiet))
    (hthere : b.waiters[waiter]? ≠ some (.done .quiet)) : a = .read waiter ∧ b.writers = 0 := by
  cases happens_of_step h with
  | signal _ =>
    -- A signal changes nothing for a waiter that has left, and makes nobody leave.
    rw [List.getElem?_map] at hleft
    obtain ⟨w, hw, hsignal⟩ := Option.map_eq_some_iff.mp hleft
    have hdone : w = .done .quiet := by
      cases w <;> cases hsignal
      rfl
    exact absurd (hdone ▸ hw) hthere
  | enter limit due =>
    rw [List.getElem?_append] at hleft
    split at hleft
    · exact absurd hleft hthere
    · rw [List.getElem?_singleton] at hleft
      split at hleft <;> cases hleft
  | leave other limit due signalled _ hquiet =>
    obtain ⟨rfl, -⟩ := eq_of_getElem?_setWaiter hleft hthere
    exact ⟨rfl, hquiet⟩
  | park | wake | expire | report =>
    obtain ⟨-, hw⟩ := eq_of_getElem?_setWaiter hleft hthere
    cases hw
  | _ => exact absurd hleft hthere

/-- **With no guard out and no signal owed, whoever goes on gets to leave.** -/
theorem advanceWaiter_quiet (hb : b.Alert) (hquiet : b.writers = 0) (howed : b.owed = 0)
    {waiter due : Nat} {limit : Span} {signalled : Bool} (now : Nat)
    (h : b.waiters[waiter]? = some (.registered limit due signalled) ∨
      b.waiters[waiter]? = some (.parked limit due signalled)) :
    (advanceWaiter now b waiter).waiters[waiter]? = some (.done .quiet) := by
  show ((((b.attempt (.wake waiter)).attempt (.read waiter)).attempt (.expire waiter now)).attempt
    (.report waiter)).waiters[waiter]? = some (.done .quiet)
  rcases h with h | h
  · have hwake : b.attempt (.wake waiter) = b := by simp only [attempt, step, h, Option.getD_none]
    rw [hwake]
    exact quiet_of_registered h hquiet
  · -- A parked waiter has its signal, so it registers again and reads the counter.
    obtain ⟨hlt, -⟩ := List.getElem?_eq_some_iff.mp h
    have hawake := hb hquiet howed _ (List.mem_of_getElem? h)
    obtain rfl : signalled = true := by
      cases signalled <;> first | rfl | cases hawake
    have hwake : b.attempt (.wake waiter) = b.setWaiter waiter (.registered limit due false) := by
      rw [attempt, step, h]
      rfl
    rw [hwake]
    exact quiet_of_registered (List.getElem?_set_self hlt) hquiet

/-! ### Runs -/

section Runs

variable {slots : Nat} {as bs : List (BoardAction α)}

theorem exists_of_foldlM_append (h : (as ++ bs).foldlM step b = some b') :
    ∃ c, as.foldlM step b = some c ∧ bs.foldlM step c = some b' := by
  rw [List.foldlM_append] at h
  exact Option.bind_eq_some_iff.mp h

theorem exists_of_foldlM_cons (h : (a :: as).foldlM step b = some b') :
    ∃ c, b.step a = some c ∧ as.foldlM step c = some b' := by
  rw [List.foldlM_cons] at h
  exact Option.bind_eq_some_iff.mp h

theorem reachable_of_run (hb : Reachable slots b) (h : as.foldlM step b = some b') :
    Reachable slots b' := by
  induction as generalizing b with
  | nil =>
    cases h
    exact hb
  | cons a rest ih =>
    obtain ⟨c, hstep, hrest⟩ := exists_of_foldlM_cons h
    exact ih (.step a hb hstep) hrest

theorem size_of_run (h : as.foldlM step b = some b') : b'.score.size = b.score.size := by
  induction as generalizing b with
  | nil =>
    cases h
    rfl
  | cons a rest ih =>
    obtain ⟨c, hstep, hrest⟩ := exists_of_foldlM_cons h
    obtain ⟨-, hscore, -, -⟩ := of_step hstep
    rw [ih hrest, hscore]
    cases a <;> simp [BoardAction.onScore, Score.reset]

/-- A slot that no action replaces holds what it held. -/
theorem slot?_of_untouched {slot : Nat} (h : as.foldlM step b = some b')
    (hfree : ∀ a ∈ as, a.touches slot = false) : b'.score.slot? slot = b.score.slot? slot := by
  induction as generalizing b with
  | nil =>
    cases h
    rfl
  | cons a rest ih =>
    obtain ⟨c, hstep, hrest⟩ := exists_of_foldlM_cons h
    rw [ih hrest fun a ha => hfree a (List.mem_cons_of_mem _ ha)]
    obtain ⟨-, hscore, -, -⟩ := of_step hstep
    have hother := hfree a List.mem_cons_self
    rw [hscore]
    cases a with
    | write guard index points | update index points =>
      refine Score.slot?_update_of_ne b.score ?_ points
      simpa [BoardAction.touches, BoardAction.put?] using hother
    | reset => cases hother
    | _ => rfl

/-- A slot holds what was written to it last. -/
theorem slot?_of_run {index : Nat} {points : α} {pre post : List (BoardAction α)}
    (h : (pre ++ a :: post).foldlM step (blank slots) = some b) (hput : a.put? = some (index, points))
    (hindex : index < slots) (hlast : ∀ c ∈ post, c.touches index = false) :
    b.score.slot? index = some (some points) := by
  obtain ⟨c, hpre, hrest⟩ := exists_of_foldlM_append h
  obtain ⟨d, hstep, hpost⟩ := exists_of_foldlM_cons hrest
  obtain ⟨-, hscore, -, -⟩ := of_step hstep
  have hsize : index < c.score.size := by
    rw [size_of_run hpre]
    simpa [blank] using hindex
  have hwritten : a.onScore c.score = c.score.update index points := by
    cases a <;> cases hput <;> rfl
  rw [slot?_of_untouched hpost hlast, hscore, hwritten]
  exact Score.slot?_update_self hsize points

/-- A guard stays out until it is given back. -/
theorem mem_guards_of_run {guard : Nat} (h : as.foldlM step b = some b') (hb : guard ∈ b.guards)
    (hkept : .release guard ∉ as) : guard ∈ b'.guards := by
  induction as generalizing b with
  | nil =>
    cases h
    exact hb
  | cons a rest ih =>
    obtain ⟨c, hstep, hrest⟩ := exists_of_foldlM_cons h
    rw [List.mem_cons, not_or] at hkept
    refine ih hrest ?_ hkept.2
    obtain ⟨-, -, hguards, -⟩ := of_step hstep
    rw [hguards]
    cases a with
    | lock other => exact List.mem_append_left _ hb
    | release other =>
      have hne : guard ≠ other := by
        rintro rfl
        exact hkept.1 rfl
      exact (List.mem_erase_of_ne hne).mpr hb
    | _ => exact hb

/-- While no guard is out, each that ever was has been given back. -/
theorem mem_release_of_run {guard : Nat} {pre post : List (BoardAction α)}
    (h : (pre ++ .lock guard :: post).foldlM step (blank slots) = some b) (hout : b.guards = []) :
    .release guard ∈ post := by
  obtain ⟨c, -, hrest⟩ := exists_of_foldlM_append h
  obtain ⟨d, hstep, hpost⟩ := exists_of_foldlM_cons hrest
  obtain ⟨-, -, hguards, -⟩ := of_step hstep
  by_contra hkept
  have hmem : guard ∈ d.guards := by
    rw [hguards]
    exact List.mem_append_right _ (List.mem_singleton_self guard)
  have hleft := mem_guards_of_run hpost hmem hkept
  rw [hout] at hleft
  cases hleft

/-- **Guards and waiters of a shared score.**  After every run from the start, the counter is the
number of guards that are out, so no release finds it at zero.  A waiter that leaves next does so
by reading a counter of zero: every guard ever handed out has been given back, and every value
that was put into a slot and not replaced is there to see.  And with the counter at zero nobody
sleeps without a signal, once no signal is owed. -/
theorem run_waiting (h : as.foldlM step (blank slots : Board α) = some b) :
    (b.writers = b.guards.length ∧ b.guards.Nodup ∧
      ∀ guard b', b.step (.release guard) = some b' → b.writers ≠ 0) ∧
    (∀ a b' waiter, b.step a = some b' → b'.waiters[waiter]? = some (.done .quiet) →
      b.waiters[waiter]? ≠ some (.done .quiet) →
      a = .read waiter ∧ b.writers = 0 ∧ b.guards = [] ∧
      (∀ pre guard post, as = pre ++ .lock guard :: post → .release guard ∈ post) ∧
      ∀ pre c post index points, as = pre ++ c :: post → c.put? = some (index, points) →
        index < slots → (∀ d ∈ post, d.touches index = false) →
        b'.score.slot? index = some (some points)) ∧
    (b.owed = 0 → b.writers = 0 → ∀ w ∈ b.waiters, w.sleeps = false) := by
  have hreachable : Reachable slots b := reachable_of_run .blank h
  have hcount := hreachable.consistent
  refine ⟨⟨hcount.writers_eq, hcount.nodup, ?_⟩, ?_, ?_⟩
  · intro guard b' hrelease
    obtain ⟨hout, -⟩ := of_step hrelease
    rw [hcount.writers_eq]
    exact Nat.ne_of_gt (List.length_pos_of_mem hout)
  · intro a b' waiter hstep hleft hthere
    obtain ⟨rfl, hquiet⟩ := eq_read_of_leaves hstep hleft hthere
    have hnone : b.guards = [] := List.eq_nil_of_length_eq_zero (hcount.writers_eq ▸ hquiet)
    refine ⟨rfl, hquiet, hnone, ?_, ?_⟩
    · rintro pre guard post rfl
      exact mem_release_of_run h hnone
    · rintro pre c post index points rfl hput hindex hlast
      obtain ⟨-, hscore, -, -⟩ := of_step hstep
      rw [hscore]
      exact slot?_of_run h hput hindex hlast
  · intro howed hquiet
    exact hreachable.alert hquiet howed

end Runs

/-- A guard is handed out between the release of the last one and the signal for it.  The waiter
that hears the signal parks once more, and leaves when the second guard is back. -/
theorem run_waiting_relock :
    let as : List (BoardAction Nat) := [.lock 0, .enter ⟨100⟩ 100, .read 0, .write 0 1 7,
      .release 0, .lock 1, .signal, .wake 0, .read 0, .release 1, .signal, .wake 0]
    ∃ b b', as.foldlM step (blank 2) = some b ∧ b.step (.read 0) = some b' ∧
      b'.waiters[0]? = some (.done .quiet) ∧ b.guards = [] ∧ b'.score.slot? 1 = some (some 7) ∧
      ∀ w ∈ b.waiters, w.sleeps = false := by
  intro as
  obtain ⟨b, hb, howed, hquiet, hthere⟩ : ∃ b, as.foldlM step (blank 2) = some b ∧ b.owed = 0 ∧
      b.writers = 0 ∧ b.waiters[0]? ≠ some (.done .quiet) := ⟨_, rfl, rfl, rfl, by decide⟩
  obtain ⟨b', hstep, hleft⟩ : ∃ b', b.step (.read 0) = some b' ∧
      b'.waiters[0]? = some (.done .quiet) := by
    cases hb
    exact ⟨_, rfl, rfl⟩
  obtain ⟨-, hleave, hawake⟩ := run_waiting hb
  obtain ⟨-, -, hnone, -, hslots⟩ := hleave _ b' 0 hstep hleft hthere
  refine ⟨b, b', hb, hstep, hleft, hnone, ?_, hawake howed hquiet⟩
  exact hslots [.lock 0, .enter ⟨100⟩ 100, .read 0] (.write 0 1 7) _ 1 7 rfl rfl (by decide)
    (by simp [BoardAction.touches, BoardAction.put?])

end Board
end MailPolicy
