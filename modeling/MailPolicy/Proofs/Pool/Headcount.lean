/-
The counters of a pool.

Four parties change the two counters: a submit that starts a worker, a worker that goes idle, one
that notices that it was woken or that its time is up, and one that is struck off.  What they did
is read off the actions, one by one, without the list of workers that the pool keeps.

* `Pool.times` — how often something has happened while actions were tried;
* `Pool.tally_step` — what one action does to the counters;
* `Pool.Bounded` — no more workers wait without a limit than may;
* `Pool.counters_exact` — **the counters are what was added to them less what was taken off**, they
  agree with the workers there are, and neither is ever lowered below zero.
-/
import MailPolicy.Proofs.Pool.Backpressure
import MailPolicy.Proofs.Pool.Order

namespace MailPolicy

variable {T : Type}

/-- Whether a worker waits for a wake-up however long it takes. -/
def Worker.waitsForGood : Worker T → Bool
  | parked none => true
  | _ => false

theorem Worker.isIdle_of_waitsForGood {w : Worker T} (h : w.waitsForGood = true) :
    w.isIdle = true := by
  cases w with
  | parked due => rfl
  | _ => cases h

/-- Nobody begins to wait for good by hearing a wake-up. -/
theorem Worker.waitsForGood_hear (how : Wakeup) (w : Worker T) :
    (w.hear how).waitsForGood = false := by
  rcases w with _ | _ | _ | _ | (_ | _) | ⟨_, _ | _⟩ | _ | _ <;> rfl

namespace Pool

variable {p q : Pool T} {a : PoolAction T}

/-! ### What is counted -/

/-- Whether an action starts a worker. -/
def hires (p : Pool T) : PoolAction T → Bool
  | .submit task => (p.submit task).isOk && p.wantsWorker
  | _ => false

/-- Whether an action strikes a worker off. -/
def strikes (p : Pool T) : PoolAction T → Bool
  | .strike worker => (p.step (.strike worker)).isSome
  | _ => false

/-- Whether an action makes a worker idle: it looks, and finds no task in an open pool. -/
def rests (p : Pool T) : PoolAction T → Bool
  | .look worker now => (p.step (.look worker now)).isSome && p.queue.isEmpty && !p.closed
  | _ => false

/-- Whether an action ends the idleness of a worker: it notices that it was woken, or that its time
is up. -/
def rouses (p : Pool T) : PoolAction T → Bool
  | .wake worker => (p.step (.wake worker)).isSome
  | .resign worker => (p.step (.resign worker)).isSome
  | _ => false

/-- How often something happens while actions are tried one after the other. -/
def times (happens : Pool T → PoolAction T → Bool) (p : Pool T) : List (PoolAction T) → Nat
  | [] => 0
  | a :: rest => (happens p a).toNat + times happens (p.attempt a) rest

/-! ### One action -/

/-- What an action does to the counters. -/
theorem tally_step (hp : p.Counted) (hs : p.step a = some q) :
    q.workers + (p.strikes a).toNat = p.workers + (p.hires a).toNat ∧
      q.idle + (p.rouses a).toNat = p.idle + (p.rests a).toNat := by
  -- Whoever is struck off or roused was counted.
  have halive {worker : Nat} {w : Worker T} (hw : p.staff[worker]? = some w) :
      w.isAlive.toNat ≤ p.workers := hp.workers_eq ▸ toNat_le_countP Worker.isAlive hw
  have hidle {worker : Nat} {w : Worker T} (hw : p.staff[worker]? = some w) :
      w.isIdle.toNat ≤ p.idle := hp.idle_eq ▸ toNat_le_countP Worker.isIdle hw
  cases happens_of_step hs with
  | hire task hopen hroom hwants hhosted =>
    have hok : (p.submit task).isOk = true := by
      simp [submit, hopen, hroom, hwants, hhosted, Except.isOk, Except.toBool]
    constructor
    · show p.workers + 1 + 0 = p.workers + ((p.submit task).isOk && p.wantsWorker).toNat
      rw [hok, hwants]
      rfl
    · rfl
  | accept task _ _ hwants =>
    constructor
    · show p.workers + 0 = p.workers + ((p.submit task).isOk && p.wantsWorker).toNat
      rw [hwants, Bool.and_false]
      rfl
    · rfl
  | notify _ => exact ⟨workers_wakeOne _, idle_wakeOne _⟩
  | take worker now task rest hw hqueue =>
    refine ⟨rfl, ?_⟩
    show p.idle + 0 = p.idle + ((p.step _).isSome && p.queue.isEmpty && !p.closed).toNat
    rw [hqueue, List.isEmpty_cons, Bool.and_false, Bool.false_and]
    rfl
  | leave worker now hw _ hclosed =>
    refine ⟨rfl, ?_⟩
    show p.idle + 0 = p.idle + ((p.step _).isSome && p.queue.isEmpty && !p.closed).toNat
    rw [hclosed, Bool.not_true, Bool.and_false]
    rfl
  | parkWoken worker now hw hqueue hopen _ | park worker now due hw hqueue hopen _ _ =>
    refine ⟨rfl, ?_⟩
    show p.idle + 1 + 0 = p.idle + ((p.step _).isSome && p.queue.isEmpty && !p.closed).toNat
    rw [hs, hqueue, hopen]
    rfl
  | wake worker hw | resign worker heard hw =>
    refine ⟨rfl, ?_⟩
    show p.idle - 1 + (p.step _).isSome.toNat = p.idle + 0
    rw [hs]
    exact Nat.sub_add_cancel (hidle hw)
  | strike worker hw =>
    refine ⟨?_, rfl⟩
    show p.workers - 1 + (p.step _).isSome.toNat = p.workers + 0
    rw [hs]
    exact Nat.sub_add_cancel (halive hw)
  | passOn worker retires hw => exact ⟨workers_wakeOne _, idle_wakeOne _⟩
  | _ => exact ⟨rfl, rfl⟩

/-- An action that is not possible counts for nothing. -/
theorem tally_of_step_eq_none (hs : p.step a = none) :
    p.strikes a = false ∧ p.hires a = false ∧ p.rouses a = false ∧ p.rests a = false := by
  cases a with
  | submit task =>
    refine ⟨rfl, ?_, rfl, rfl⟩
    rw [step] at hs
    cases hsubmit : p.submit task with
    | ok q =>
      rw [hsubmit] at hs
      cases hs
    | error reason =>
      rw [hires, hsubmit]
      rfl
  | look worker now =>
    refine ⟨rfl, rfl, rfl, ?_⟩
    rw [rests, hs]
    rfl
  | wake worker | resign worker =>
    refine ⟨rfl, rfl, ?_, rfl⟩
    rw [rouses, hs]
    rfl
  | strike worker =>
    refine ⟨?_, rfl, rfl, rfl⟩
    rw [strikes, hs]
    rfl
  | _ => exact ⟨rfl, rfl, rfl, rfl⟩

/-- So after any actions the counters are what was added to them less what was taken off. -/
theorem tally_attemptAll (hp : p.Counted) (as : List (PoolAction T)) :
    (p.attemptAll as).workers + times strikes p as = p.workers + times hires p as ∧
      (p.attemptAll as).idle + times rouses p as = p.idle + times rests p as := by
  induction as generalizing p with
  | nil => exact ⟨rfl, rfl⟩
  | cons a rest ih =>
    have hone : (p.attempt a).Counted ∧
        (p.attempt a).workers + (p.strikes a).toNat = p.workers + (p.hires a).toNat ∧
        (p.attempt a).idle + (p.rouses a).toNat = p.idle + (p.rests a).toNat := by
      unfold attempt
      cases hs : p.step a with
      | none =>
        obtain ⟨hstrikes, hhires, hrouses, hrests⟩ := tally_of_step_eq_none hs
        rw [hstrikes, hhires, hrouses, hrests]
        exact ⟨hp, rfl, rfl⟩
      | some q => exact ⟨hp.happens (happens_of_step hs), tally_step hp hs⟩
    obtain ⟨hcounted, hworkers, hidle⟩ := hone
    obtain ⟨hworkers', hidle'⟩ := ih hcounted
    constructor
    · show ((p.attempt a).attemptAll rest).workers + _ = _
      rw [times, times]
      omega
    · show ((p.attempt a).attemptAll rest).idle + _ = _
      rw [times, times]
      omega

/-! ### Waiting for good -/

/-- How many workers wait for good. -/
def retained (p : Pool T) : Nat := p.staff.countP Worker.waitsForGood

/-- Whether no more workers wait for good than may. -/
def Bounded (p : Pool T) : Prop := p.retained ≤ p.settings.maxIdle

theorem Counted.retained_le_idle (hp : p.Counted) : p.retained ≤ p.idle := by
  rw [hp.idle_eq]
  exact List.countP_mono_left fun _ _ => Worker.isIdle_of_waitsForGood

theorem countP_modify_le {α : Type} {f : α → Bool} {g : α → α} (h : ∀ x, f (g x) = false)
    (l : List α) (i : Nat) : (l.modify i g).countP f ≤ l.countP f := by
  cases hi : l[i]? with
  | none =>
    rw [List.modify_eq_set_getElem?, hi]
    exact Nat.le_refl _
  | some x =>
    have hset := countP_set_add f (g x) hi
    rw [h x, Bool.toNat_false] at hset
    rw [List.modify_eq_set_getElem?, hi]
    show (l.set i (g x)).countP f ≤ l.countP f
    omega

theorem retained_wakeOne_le (p : Pool T) : p.wakeOne.retained ≤ p.retained := by
  unfold wakeOne
  split
  · exact Nat.le_refl _
  · exact countP_modify_le (Worker.waitsForGood_hear .one) _ _

theorem retained_wakeLine_le (p : Pool T) : p.wakeLine.retained ≤ p.retained := by
  unfold wakeLine retained
  dsimp only
  generalize p.line = line
  generalize p.staff = staff
  induction line generalizing staff with
  | nil => exact Nat.le_refl _
  | cons worker rest ih =>
    exact Nat.le_trans (ih _) (countP_modify_le (Worker.waitsForGood_hear .all) _ _)

theorem retained_of_set {worker : Nat} {w v : Worker T} (hw : p.staff[worker]? = some w)
    (hstaff : q.staff = p.staff.set worker v) :
    q.retained + w.waitsForGood.toNat = p.retained + v.waitsForGood.toNat := by
  rw [retained, hstaff]
  exact countP_set_add Worker.waitsForGood v hw

/-- A worker that goes to wait for good is counted, and its wait would be limited if too many
were. -/
theorem Bounded.happens (hp : p.Bounded) (hcounted : p.Counted) (h : Happens p a q) :
    q.Bounded := by
  unfold Bounded at hp ⊢
  rw [h.fixed.1]
  -- Any other change of a worker lets it wait for good no more than before.
  have hset {worker : Nat} {w v : Worker T} (hw : p.staff[worker]? = some w)
      (hstaff : q.staff = p.staff.set worker v) (hv : v.waitsForGood = false) :
      q.retained ≤ p.settings.maxIdle := by
    have hsame := retained_of_set hw hstaff
    rw [hv, Bool.toNat_false] at hsame
    omega
  cases h with
  | hire task _ _ _ _ =>
    show (p.staff ++ [Worker.looking]).countP Worker.waitsForGood ≤ _
    rw [List.countP_append]
    exact hp
  | notify _ =>
    exact Nat.le_trans (retained_wakeOne_le { p with owedWakeups := p.owedWakeups - 1 }) hp
  | park worker now due hw _ _ _ hdue =>
    by_cases hbounded : p.nextIsBounded = true
    · rw [if_pos hbounded] at hdue
      exact hset hw rfl (hdue ▸ rfl)
    · rw [if_neg hbounded] at hdue
      have hsame := retained_of_set (q := { p.setWorker worker (.parked due) with
        idle := p.idle + 1, line := p.line ++ [worker] }) hw rfl
      rw [hdue] at hsame ⊢
      change _ + 0 = _ + 1 at hsame
      have hle := hcounted.retained_le_idle
      have hroom : p.idle + 1 ≤ p.settings.maxIdle := by
        rw [nextIsBounded, decide_eq_true_eq] at hbounded
        omega
      omega
  | passOn worker retires hw =>
    refine Nat.le_trans (retained_wakeOne_le _) ?_
    have hsame := retained_of_set (q := p.setWorker worker (if retires then .exiting else .looking))
      hw rfl
    have hnot : (if retires then Worker.exiting else Worker.looking (T := T)).waitsForGood = false := by
      cases retires <;> rfl
    rw [hnot, Bool.toNat_false] at hsame
    omega
  | wakeAll closer _ => exact Nat.le_trans (retained_wakeLine_le p) hp
  | withdraw worker retires hw | withdrawWoken worker retires hw =>
    refine hset hw rfl ?_
    cases retires <;> rfl
  | take worker now task rest hw _ | leave worker now hw _ _ | parkWoken worker now hw _ _ _
  | finish worker task hw | panic worker task hw | wake worker hw | expire worker now due hw _
  | resign worker heard hw | strike worker hw => exact hset hw rfl rfl
  | accept _ _ _ _ | announce _ | close | register _ _ | readGone _ _ _ _ | readBusy _ _ _ _
  | resume _ _ => exact hp

variable {name : String} {s : PoolSettings} {hosted : Bool}

theorem Reachable.bounded (h : Reachable name s hosted p) : p.Bounded := by
  induction h with
  | start => exact Nat.zero_le _
  | step a hp hstep ih => exact ih.happens hp.invariant.counted (happens_of_step hstep)

/-! ### Any actions -/

/-- **The counters of a pool are exact.**  Whatever is tried on a pool, the count of workers is the
number of workers started less those struck off, and the count of idle workers is the number of
those that went idle less those that have noticed a wake-up or the end of their time; these are the
workers there are in either case.  There are never more idle workers than workers, nor more workers
than there may be, no more wait for good than may, and a counter is lowered only while it is
positive. -/
theorem counters_exact (name : String) (s : PoolSettings) (hosted : Bool)
    (as : List (PoolAction T)) :
    let start : Pool T := ofSettings name s hosted
    let p := start.attemptAll as
    (p.workers + times strikes start as = times hires start as ∧
      p.workers = p.staff.countP Worker.isAlive) ∧
    (p.idle + times rouses start as = times rests start as ∧
      p.idle = p.staff.countP Worker.isIdle) ∧
    p.idle ≤ p.workers ∧ p.workers ≤ max s.maxWorkers 1 ∧
    p.staff.countP Worker.waitsForGood ≤ s.maxIdle ∧
    ∀ a, (p.strikes a = true → 0 < p.workers) ∧ (p.rouses a = true → 0 < p.idle) := by
  intro start p
  have hreachable : Reachable name s hosted p := Reachable.start.attemptAll as
  have hcounted := hreachable.invariant.counted
  have hstaffed := hreachable.staffed
  obtain ⟨hworkers, hidle⟩ := tally_attemptAll (counted_ofSettings (T := T) name s hosted) as
  have hmax := hstaffed.workers_le
  have hgood := hreachable.bounded
  rw [Bounded, hreachable.fixed.1] at hgood
  rw [hreachable.fixed.1] at hmax
  refine ⟨⟨?_, hcounted.workers_eq⟩, ⟨?_, hcounted.idle_eq⟩, hstaffed.idle_le, hmax, hgood, ?_⟩
  · exact hworkers.trans (Nat.zero_add _)
  · exact hidle.trans (Nat.zero_add _)
  · -- What lowers a counter has found a worker that it counts.
    intro a
    constructor
    · intro hstrikes
      cases a with
      | strike worker =>
        obtain ⟨q, hq⟩ := Option.isSome_iff_exists.mp hstrikes
        cases happens_of_step hq with
        | strike _ hw => exact hcounted.workers_eq ▸ toNat_le_countP Worker.isAlive hw
      | _ => cases hstrikes
    · intro hrouses
      cases a with
      | wake worker =>
        obtain ⟨q, hq⟩ := Option.isSome_iff_exists.mp hrouses
        cases happens_of_step hq with
        | wake _ hw => exact hcounted.idle_eq ▸ toNat_le_countP Worker.isIdle hw
      | resign worker =>
        obtain ⟨q, hq⟩ := Option.isSome_iff_exists.mp hrouses
        cases happens_of_step hq with
        | resign _ heard hw => exact hcounted.idle_eq ▸ toNat_le_countP Worker.isIdle hw
      | _ => cases hrouses

/-- Three workers are started; one goes idle for good, one runs out of time and retires, and the
handler of the third panics. -/
theorem counters_exact_three :
    let start : Pool Nat := ofSettings "three" { maxWorkers := 3, maxIdle := 1 } true
    let as : List (PoolAction Nat) := [.submit 1, .submit 2, .submit 3, .look 0 0, .look 1 0,
      .look 2 0, .finish 0, .finish 1, .look 0 0, .look 1 0, .expire 1 30000, .resign 1,
      .withdraw 1, .strike 1, .panic 2, .strike 2]
    let p := start.attemptAll as
    (times hires start as = 3 ∧ times strikes start as = 2 ∧ p.workers = 1) ∧
      (times rests start as = 2 ∧ times rouses start as = 1 ∧ p.idle = 1) ∧
      p.idle ≤ p.workers ∧ p.staff.countP Worker.waitsForGood ≤ 1 := by
  intro start as p
  have hhires : times hires start as = 3 := by decide +kernel
  have hstrikes : times strikes start as = 2 := by decide +kernel
  have hrests : times rests start as = 2 := by decide +kernel
  have hrouses : times rouses start as = 1 := by decide +kernel
  obtain ⟨⟨hworkers, -⟩, ⟨hidle, -⟩, hle, -, hgood, -⟩ :=
    counters_exact "three" { maxWorkers := 3, maxIdle := 1 } true as
  rw [hhires, hstrikes] at hworkers
  rw [hrests, hrouses] at hidle
  exact ⟨⟨hhires, hstrikes, Nat.add_right_cancel hworkers⟩,
    ⟨hrests, hrouses, Nat.add_right_cancel hidle⟩, hle, hgood⟩

end Pool
end MailPolicy
