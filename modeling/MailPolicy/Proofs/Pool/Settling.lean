/-
How a pool settles that is left alone.

Once the queue is empty and nobody submits a task, calls for a shutdown or panics, the queue stays
empty and no worker is added.  The workers inside the handler come back, the wake-ups under way
reach somebody, those whose time is up leave, and in the end everyone who is left waits for good.

* `Pool.Open` — nobody has called for a shutdown;
* `Pool.SettledAt` — no worker has anything to do until some instant has passed;
* `Pool.Prompt` — nobody's time is up later than at some instant;
* `Pool.unrest` — a bound on the steps that are left, with what each wake-up can bring about;
* `Pool.exists_settled` — **a pool that is left alone settles**, on a clock that does not go back.
-/
import MailPolicy.Proofs.Pool.Conservation

namespace MailPolicy

variable {T : Type}

/-! ### Actions -/

namespace PoolAction

/-- Whether an action is neither a panic nor a call for a shutdown. -/
def isCalm : PoolAction T → Bool
  | panic _ | close => false
  | _ => true

/-- Whether an action is one of a pool that is left alone, in which handlers may yet end. -/
def isQuiet : PoolAction T → Bool
  | submit _ => false
  | a => a.isCalm

/-- The instant at which an action reads the clock. -/
def instant? : PoolAction T → Option Nat
  | look _ now | expire _ now => some now
  | _ => none

theorem isCalm_of_isQuiet {a : PoolAction T} (h : a.isQuiet = true) : a.isCalm = true := by
  cases a with
  | submit task => cases h
  | _ => exact h

end PoolAction

namespace Worker

/-- Whether a worker waits for a wake-up for good, or is gone. -/
def isSettled : Worker T → Bool
  | parked none | gone => true
  | _ => false

/-- What a wake-up can bring about that a worker has to pass on. -/
def burden : Option Wakeup → Nat
  | some .one => 3
  | _ => 0

/-- A bound on what a worker does until it waits or is gone. -/
def unrest : Worker T → Nat
  | gone => 0
  | exiting => 1
  | withdrawing true heard => 2 + burden heard
  | expired heard => 3 + burden heard
  | parked _ => 4
  | looking => 5
  | woken | running _ => 6
  | withdrawing false heard => 6 + burden heard

theorem unrest_hear (w : Worker T) : (w.hear .one).unrest ≤ w.unrest + 3 := by
  rcases w with _ | _ | _ | _ | (_ | _) | ⟨_ | _, _ | _⟩ | _ | _ <;> simp [hear, unrest, burden]

end Worker

namespace Pool

variable {p q : Pool T} {a : PoolAction T}

/-! ### Pools that are left alone -/

/-- Whether nobody has called for a shutdown. -/
structure Open (p : Pool T) : Prop where
  closed : p.closed = false
  closers : p.closers = []

theorem Open.getElem?_ne (hp : p.Open) {closer : Nat} {c : Closer} : p.closers[closer]? ≠ some c := by
  rw [hp.closers]
  exact nofun

theorem Open.happens (hp : p.Open) (h : Happens p a q) (ha : a.isCalm = true) : q.Open := by
  have hclose : a ≠ .close := by
    rintro rfl
    cases ha
  refine ⟨(h.closed_eq hclose).trans hp.closed, ?_⟩
  cases h with
  | notify _ | passOn _ _ _ =>
    rw [closers_wakeOne]
    exact hp.closers
  | announce _ =>
    show p.closers.map Closer.signal = []
    rw [hp.closers, List.map_nil]
  | panic _ _ _ | close => cases ha
  | wakeAll _ hc | register _ hc | readGone _ _ hc _ | readBusy _ _ hc _ | resume _ hc =>
    exact absurd hc hp.getElem?_ne
  | _ => exact hp.closers

/-- Without a submit an empty queue stays empty. -/
theorem Happens.queue_eq_nil (h : Happens p a q) (ha : a.isQuiet = true) (hp : p.queue = []) :
    q.queue = [] := by
  refine List.eq_nil_iff_forall_not_mem.mpr fun task hmem => ?_
  rcases h.mem_queue hmem with hold | rfl
  · rw [hp] at hold
    exact List.not_mem_nil hold
  · cases ha

/-- Without a submit no worker is added. -/
theorem Happens.workers_le_of_isQuiet (h : Happens p a q) (ha : a.isQuiet = true) :
    q.workers ≤ p.workers := by
  cases h with
  | hire _ _ _ _ _ => cases ha
  | notify _ | passOn _ _ _ => exact Nat.le_of_eq (workers_wakeOne _)
  | strike _ _ => exact Nat.sub_le p.workers 1
  | _ => exact Nat.le_refl _

/-! ### The end of all waits -/

/-- Whether no worker has anything to do until the instant `t` has passed: all handlers have ended,
all wake-ups have been sent, and everyone is gone or parked beyond it. -/
structure SettledAt (p : Pool T) (t : Nat) : Prop where
  owed : p.owedWakeups = 0
  staff : ∀ w ∈ p.staff, w = .gone ∨ ∃ due, w = .parked due ∧ ∀ instant ∈ due, t < instant

/-- Whether every worker is gone or waits for good. -/
structure Settled (p : Pool T) : Prop where
  owed : p.owedWakeups = 0
  staff : ∀ w ∈ p.staff, w.isSettled = true

theorem Settled.settledAt (hp : p.Settled) (t : Nat) : p.SettledAt t := by
  refine ⟨hp.owed, fun w hw => ?_⟩
  have hsettled := hp.staff w hw
  cases w with
  | gone => exact .inl rfl
  | parked due =>
    cases due with
    | none => exact .inr ⟨none, rfl, fun _ h => by cases h⟩
    | some due => cases hsettled
  | _ => cases hsettled

/-- Whether the time of every worker that waits is up before the instant `t`. -/
def Prompt (p : Pool T) (t : Nat) : Prop :=
  ∀ w ∈ p.staff, ∀ due, w = .parked (some due) → due < t

/-- Whoever is there at an instant by which every wait is over waits for good. -/
theorem SettledAt.settled {t : Nat} (hp : p.SettledAt t) (hprompt : p.Prompt t) : p.Settled := by
  refine ⟨hp.owed, fun w hw => ?_⟩
  rcases hp.staff w hw with rfl | ⟨due, rfl, hlate⟩
  · rfl
  · cases due with
    | none => rfl
    | some due =>
      have hbefore := hprompt _ hw due rfl
      have hafter := hlate due rfl
      omega

/-- What holds of every worker, and of the one that takes another's place. -/
theorem forall_mem_set {P : Worker T → Prop} {staff : List (Worker T)} (h : ∀ w ∈ staff, P w)
    (worker : Nat) {v : Worker T} (hv : P v) : ∀ w ∈ staff.set worker v, P w := by
  intro w hw
  rcases List.mem_or_eq_of_mem_set hw with hold | rfl
  · exact h w hold
  · exact hv

theorem forall_mem_wakeOne {P : Worker T → Prop} (hear : ∀ w, P w → P (w.hear .one))
    (h : ∀ w ∈ p.staff, P w) : ∀ w ∈ p.wakeOne.staff, P w := by
  cases hline : p.line with
  | nil =>
    rw [wakeOne_of_nil hline]
    exact h
  | cons worker rest =>
    rw [wakeOne_of_cons hline]
    cases hw : p.staff[worker]? with
    | none =>
      rw [List.modify_eq_set_getElem?, hw]
      exact h
    | some w =>
      show ∀ v ∈ p.staff.modify worker (.hear .one), P v
      rw [modify_eq_set _ hw]
      exact forall_mem_set h worker (hear w (h w (List.mem_of_getElem? hw)))

theorem ne_parked_hear (how : Wakeup) (w : Worker T) (due : Option Nat) : w.hear how ≠ .parked due := by
  rcases w with _ | _ | _ | _ | (_ | _) | ⟨_, _ | _⟩ | _ | _ <;> nofun

/-- What holds of every worker, waiting or not, still holds after a step if it does of whoever goes
idle and of whoever finds that its time is up. -/
theorem Happens.forall_mem {P : Worker T → Prop} (h : Happens p a q) (hopen : p.Open)
    (hp : ∀ w ∈ p.staff, P w) (hear : ∀ w, P w → P (w.hear .one))
    (hother : ∀ w : Worker T, w.isParked = false → (∀ heard, w ≠ .expired heard) → P w)
    (hexpire : ∀ due, P (.parked (some due)) → P (.expired none))
    (hpark : ∀ worker now, a = .look worker now → p.staff[worker]? = some .looking →
      P (.parked (if p.nextIsBounded then some (now + p.settings.idleTimeout) else none))) :
    ∀ w ∈ q.staff, P w := by
  have hset (worker : Nat) {v : Worker T} (hv : v.isParked = false)
      (hv' : ∀ heard, v ≠ .expired heard) : ∀ w ∈ p.staff.set worker v, P w :=
    forall_mem_set hp worker (hother v hv hv')
  cases h with
  | hire task _ _ _ _ =>
    intro w hw
    rcases List.mem_append.mp hw with hold | hnew
    · exact hp w hold
    · rw [List.mem_singleton.mp hnew]
      exact hother _ rfl nofun
  | notify _ => exact forall_mem_wakeOne (p := { p with owedWakeups := p.owedWakeups - 1 }) hear hp
  | park worker now due hw _ _ _ hdue =>
    rw [hdue]
    exact forall_mem_set hp worker (hpark worker now rfl hw)
  | expire worker now due hw _ =>
    exact forall_mem_set hp worker (hexpire due (hp _ (List.mem_of_getElem? hw)))
  | passOn worker retires _ =>
    refine forall_mem_wakeOne hear ?_
    cases retires <;> exact hset worker rfl nofun
  | withdraw worker retires _ | withdrawWoken worker retires _ =>
    cases retires <;> exact hset worker rfl nofun
  | take worker _ _ _ _ _ | leave worker _ _ _ _ | parkWoken worker _ _ _ _ _ | finish worker _ _
  | panic worker _ _ | wake worker _ | resign worker _ _ | strike worker _ =>
    exact hset worker rfl nofun
  | wakeAll _ hc => exact absurd hc hopen.getElem?_ne
  | accept _ _ _ _ | announce _ | close | register _ _ | readGone _ _ _ _ | readBusy _ _ _ _
  | resume _ _ => exact hp

/-- A wait is limited by the instant at which it begins. -/
theorem Prompt.happens {t : Nat} (hp : p.Prompt t) (hopen : p.Open) (h : Happens p a q)
    (hlook : ∀ worker now, a = .look worker now → now + p.settings.idleTimeout < t) :
    q.Prompt t := by
  refine h.forall_mem hopen hp ?_ ?_ ?_ ?_
  · exact fun w _ due hparked => absurd hparked (ne_parked_hear .one w _)
  · intro w hw _ due hparked
    rw [hparked] at hw
    cases hw
  · exact fun _ _ => nofun
  · intro worker now ha _ due hparked
    obtain ⟨-, hdue⟩ := Option.ite_none_right_eq_some.mp (Worker.parked.inj hparked)
    exact Option.some.inj hdue ▸ hlook worker now ha

/-! ### Settling -/

/-- A bound on the steps that a pool with an empty queue takes until it is settled. -/
def unrest (p : Pool T) : Nat :=
  (p.staff.map Worker.unrest).sum + 4 * p.owedWakeups + 2 * p.permit.toNat

theorem unrest_wakeOne (p : Pool T) : p.wakeOne.unrest ≤ p.unrest + 3 := by
  cases hline : p.line with
  | nil =>
    rw [wakeOne_of_nil hline]
    simp only [unrest, Bool.toNat_true]
    omega
  | cons worker rest =>
    rw [wakeOne_of_cons hline]
    cases hw : p.staff[worker]? with
    | none =>
      rw [List.modify_eq_set_getElem?, hw]
      exact Nat.le_add_right p.unrest 3
    | some w =>
      rw [modify_eq_set _ hw, unrest, unrest]
      have hset := sum_map_set_add Worker.unrest (w.hear .one) hw
      have hear := Worker.unrest_hear w
      dsimp only
      omega

/-- The bound when one worker changes. -/
theorem unrest_of_set {worker : Nat} {w v : Worker T} (hw : p.staff[worker]? = some w)
    (hstaff : q.staff = p.staff.set worker v) (howed : q.owedWakeups = p.owedWakeups)
    (hpermit : q.permit = p.permit) : q.unrest + w.unrest = p.unrest + v.unrest := by
  have hset := sum_map_set_add Worker.unrest v hw
  rw [unrest, unrest, hstaff, howed, hpermit]
  omega

/-- Whether a pool can take a step, at the instant `c` or later, that brings it nearer to being
settled. -/
def Settles (p : Pool T) (c : Nat) : Prop :=
  ∃ a q, PoolAction.isQuiet a = true ∧ p.step a = some q ∧ q.unrest < p.unrest ∧
    ∀ now ∈ a.instant?, c ≤ now

theorem settles_of_look {worker : Nat} (hp : p.Open) (hqueue : p.queue = [])
    (hw : p.staff[worker]? = some .looking) (c : Nat) : p.Settles c := by
  have hstep : p.step (.look worker c) = some (p.park worker c) := by
    simp only [step, hw, hqueue, hp.closed]
    rfl
  refine ⟨.look worker c, _, rfl, hstep, ?_, fun now h => Nat.le_of_eq (Option.some.inj h)⟩
  unfold park
  by_cases hpermit : p.permit = true
  · -- The permit wakes the worker at once, and is used up.
    rw [if_pos hpermit]
    have hset := sum_map_set_add Worker.unrest .woken hw
    have hlooking : (Worker.looking : Worker T).unrest = 5 := rfl
    have hwoken : (Worker.woken : Worker T).unrest = 6 := rfl
    show ((p.staff.set worker .woken).map Worker.unrest).sum + 4 * p.owedWakeups + 2 * 0 < _
    rw [unrest, hpermit, Bool.toNat_true]
    omega
  · rw [if_neg hpermit]
    have hset := unrest_of_set hw
      (q := { p.setWorker worker (.parked (if p.nextIsBounded then
        some (c + p.settings.idleTimeout) else none)) with
          idle := p.idle + 1, line := p.line ++ [worker] }) rfl rfl rfl
    exact Nat.lt_of_succ_le (Nat.le_of_eq (Nat.add_right_cancel (m := 4) hset))

/-- A worker that has something to do brings the pool nearer to being settled. -/
theorem settles_of_worker {worker : Nat} {w : Worker T} (hp : p.Open) (hqueue : p.queue = [])
    (hw : p.staff[worker]? = some w) (hunsettled : w.isSettled = false) (c : Nat) :
    p.Settles c := by
  have hlower {v : Worker T} {q : Pool T} (hstaff : q.staff = p.staff.set worker v)
      (howed : q.owedWakeups = p.owedWakeups) (hpermit : q.permit = p.permit)
      (hlt : v.unrest < w.unrest) : q.unrest < p.unrest := by
    have hset := unrest_of_set hw hstaff howed hpermit
    omega
  cases w with
  | gone => cases hunsettled
  | looking => exact settles_of_look hp hqueue hw c
  | parked due =>
    cases due with
    | none => cases hunsettled
    | some due =>
      refine ⟨.expire worker (max c due), p.setWorker worker (.expired none), rfl, ?_, ?_, ?_⟩
      · simp only [step, hw]
        exact if_pos (Nat.le_max_right c due)
      · exact hlower rfl rfl rfl (Nat.lt_succ_self 3)
      · exact fun now h => Option.some.inj h ▸ Nat.le_max_left c due
  | running task =>
    refine ⟨.finish worker, _, rfl, by rw [step, hw], ?_, fun _ h => by cases h⟩
    exact hlower rfl rfl rfl (Nat.lt_succ_self 5)
  | woken =>
    refine ⟨.wake worker, _, rfl, by rw [step, hw], ?_, fun _ h => by cases h⟩
    exact hlower rfl rfl rfl (Nat.lt_succ_self 5)
  | expired heard =>
    refine ⟨.resign worker, _, rfl, by rw [step, hw], ?_, fun _ h => by cases h⟩
    refine hlower rfl rfl rfl ?_
    rw [hqueue]
    exact Nat.add_lt_add_right (Nat.lt_succ_self 2) _
  | exiting =>
    refine ⟨.strike worker, _, rfl, by rw [step, hw], ?_, fun _ h => by cases h⟩
    exact hlower rfl rfl rfl Nat.zero_lt_one
  | withdrawing retires heard =>
    -- A wake-up that is passed on costs less than it did while it was held.
    have hset := unrest_of_set hw
      (q := p.setWorker worker (if retires then .exiting else .looking)) rfl rfl rfl
    have hless : (if retires then .exiting else .looking : Worker T).unrest + Worker.burden heard <
        (Worker.withdrawing retires heard : Worker T).unrest := by
      cases retires
      · exact Nat.add_lt_add_right (Nat.lt_succ_self 5) _
      · exact Nat.add_lt_add_right (Nat.lt_succ_self 1) _
    rcases heard with _ | _ | _
    · refine ⟨.withdraw worker, _, rfl, by rw [step, hw], ?_, fun _ h => by cases h⟩
      show (p.setWorker worker (if retires then .exiting else .looking)).unrest < p.unrest
      omega
    · refine ⟨.withdraw worker, _, rfl, by rw [step, hw], ?_, fun _ h => by cases h⟩
      have hpassed := unrest_wakeOne (p.setWorker worker (if retires then .exiting else .looking))
      have hburden : Worker.burden (some .one) = 3 := rfl
      omega
    · refine ⟨.withdraw worker, _, rfl, by rw [step, hw], ?_, fun _ h => by cases h⟩
      omega

theorem settles_of_owed (h : 0 < p.owedWakeups) (c : Nat) : p.Settles c := by
  refine ⟨.notify, _, rfl, if_pos h, ?_, fun _ h => by cases h⟩
  have hpassed := unrest_wakeOne { p with owedWakeups := p.owedWakeups - 1 }
  have hless : ({ p with owedWakeups := p.owedWakeups - 1 } : Pool T).unrest + 4 = p.unrest := by
    simp only [unrest]
    omega
  omega

theorem settles_of_not_settled (hp : p.Open) (hqueue : p.queue = []) (h : ¬p.Settled) (c : Nat) :
    p.Settles c := by
  rcases Nat.eq_zero_or_pos p.owedWakeups with hnone | howed
  · by_contra hstuck
    refine h ⟨hnone, fun w hw => ?_⟩
    obtain ⟨i, hi⟩ := List.mem_iff_getElem?.mp hw
    by_contra hunsettled
    exact hstuck (settles_of_worker hp hqueue hi (Bool.eq_false_iff.mpr hunsettled) c)
  · exact settles_of_owed howed c

/-- **A pool that is left alone settles.**  From a pool with an empty queue that nobody has called
to shut down, there is a way on from any instant that ends with everyone gone or waiting for
good. -/
theorem exists_settled (hp : p.Open) (hqueue : p.queue = []) (c : Nat) :
    ∃ bs q, (∀ b ∈ bs, PoolAction.isQuiet b = true) ∧ p.run bs = some q ∧ q.Settled ∧
      (bs.filterMap PoolAction.instant?).Pairwise (· ≤ ·) ∧
      ∀ now ∈ bs.filterMap PoolAction.instant?, c ≤ now := by
  -- By induction on the bound; each step lowers it, and the clock goes on to the step's instant.
  induction hn : p.unrest using Nat.strongRecOn generalizing p c with
  | ind n ih =>
    by_cases hsettled : p.Settled
    · exact ⟨[], p, fun _ h => absurd h List.not_mem_nil, rfl, hsettled, .nil, fun _ h => by cases h⟩
    obtain ⟨a, q, ha, hstep, hlt, hinstant⟩ := settles_of_not_settled hp hqueue hsettled c
    have hhappens := happens_of_step hstep
    have hopen := hp.happens hhappens (PoolAction.isCalm_of_isQuiet ha)
    have hempty := hhappens.queue_eq_nil ha hqueue
    obtain ⟨bs, r, hbs, hrun, hr, hclock, hlater⟩ :=
      ih q.unrest (hn ▸ hlt) hopen hempty (a.instant?.getD c) rfl
    refine ⟨a :: bs, r, ?_, ?_, hr, ?_⟩
    · rintro b (_ | ⟨_, hb⟩)
      · exact ha
      · exact hbs b hb
    · rw [run, hstep]
      exact hrun
    · cases hnow : a.instant? with
      | none =>
        rw [hnow] at hlater
        rw [List.filterMap_cons_none hnow]
        exact ⟨hclock, hlater⟩
      | some now =>
        rw [hnow] at hlater
        have hc := hinstant now hnow
        rw [List.filterMap_cons_some hnow]
        refine ⟨List.pairwise_cons.mpr ⟨hlater, hclock⟩, ?_⟩
        rintro later (_ | ⟨_, hmem⟩)
        · exact hc
        · exact Nat.le_trans hc (hlater later hmem)

end Pool
end MailPolicy
