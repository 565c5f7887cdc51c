/-
How many workers a pool keeps that is left alone.

A pool that is left alone should shrink to the workers that may wait for good, or to those there
are if they are fewer.  It never keeps more.  It keeps fewer if somebody retires while no more are
idle than may be kept, and that needs a step that slips: once a wake-up has taken a worker that
waits for good from among others that do not, it goes idle beside them, and nobody's wait is looked
at again.

* `Pool.Settling` — a history after which a pool is left alone until all waits are over;
* `Pool.Settling.workers_le` — what is left is idle, and no more than may be kept;
* `Pool.Settling.workers_eq_retained` — from a pool at rest exactly those are left that wait for good;
* `Pool.Shrinks`, `Pool.AlwaysSettles`, `Pool.ShrinksExactly` — what is to be shown of a pool that is
  left alone;
* `Pool.exists_slipped` — a pool for more workers than it may keep can come to rest with fewer;
* `Pool.shrinks_iff` — **when a pool shrinks exactly to what it may keep**.
-/
import Mathlib.Algebra.Order.BigOperators.Group.List
import Mathlib.Algebra.Order.Group.Nat
import MailPolicy.Proofs.Pool.Shortage

namespace MailPolicy

variable {T : Type}

namespace Worker

/-- Whether a worker waits, or leaves without having heard a wake-up. -/
def waitsOrLeaves : Worker T → Bool
  | parked _ | expired none | withdrawing true none | exiting | gone => true
  | _ => false

end Worker

namespace Pool

variable {p q : Pool T} {a : PoolAction T} {as bs : List (PoolAction T)} {t : Nat}
variable {name : String} {s : PoolSettings} {hosted : Bool}

theorem Reachable.watched (h : Reachable name s hosted p) : p.Watched := ⟨h.invariant, h.bounded⟩

theorem open_ofSettings (name : String) (s : PoolSettings) (hosted : Bool) :
    (ofSettings name s hosted : Pool T).Open := ⟨rfl, rfl⟩

theorem capped_ofSettings (name : String) (s : PoolSettings) (hosted : Bool) :
    (ofSettings name s hosted : Pool T).Capped := .inl rfl

/-! ### Being left alone -/

/-- A history `as` of a pool without a panic or a shutdown leads to `p`, with an empty queue.  Then
the pool is left alone for `bs`, and at the instant `t` nobody has anything to do in `q`.  The clock
does not go back, and by then more than the timeout has passed since any worker looked at the
queue. -/
structure Settling (start : Pool T) (as bs : List (PoolAction T)) (p q : Pool T) (t : Nat) : Prop where
  history : start.run as = some p
  calm : ∀ a ∈ as, a.isCalm = true
  empty : p.queue = []
  wait : p.run bs = some q
  quiet : ∀ b ∈ bs, b.isQuiet = true
  clock : ((as ++ bs).filterMap PoolAction.instant? ++ [t]).Pairwise (· ≤ ·)
  late : ∀ worker now, .look worker now ∈ as ++ bs → now + start.settings.idleTimeout < t
  settled : q.SettledAt t

/-- Everyone who is left in a settled pool is idle, waits for good and stays. -/
theorem Settled.counts (hp : p.Settled) (hcounted : p.Counted) :
    p.idle = p.workers ∧ p.retained = p.workers ∧ p.load.staying = p.workers := by
  have hsame (f : Worker T → Bool) (hparked : f (.parked none) = true) (hgone : f .gone = false) :
      p.staff.countP f = p.workers := by
    rw [hcounted.workers_eq]
    refine List.countP_congr fun w hw => ?_
    have hsettled := hp.staff w hw
    cases w with
    | gone => exact iff_of_false (Bool.eq_false_iff.mp hgone) Bool.false_ne_true
    | parked due =>
      cases due with
      | none => exact iff_of_true hparked rfl
      | some due => cases hsettled
    | _ => cases hsettled
  exact ⟨hcounted.idle_eq.trans (hsame _ rfl rfl), hsame _ rfl rfl, hsame _ rfl rfl⟩

namespace Settling

variable (h : Settling (ofSettings name s hosted) as bs p q t)

include h

theorem reachable : Reachable name s hosted p := reachable_iff_run.mpr ⟨as, h.history⟩

theorem reachable_end : Reachable name s hosted q := h.reachable.run h.wait

theorem run_eq : (ofSettings name s hosted).run (as ++ bs) = some q := by
  rw [run_append, h.history]
  exact h.wait

theorem isCalm : ∀ a ∈ as ++ bs, a.isCalm = true := by
  intro a ha
  rcases List.mem_append.mp ha with hold | hnew
  · exact h.calm a hold
  · exact PoolAction.isCalm_of_isQuiet (h.quiet a hnew)

theorem open_mid : p.Open :=
  run_keeps h.history (open_ofSettings name s hosted) fun ha hstep hx => hx.happens hstep (h.calm _ ha)

/-- Everyone who is left waits for good. -/
theorem settled_end : q.Settled := by
  refine h.settled.settled ?_
  refine (run_keeps (P := fun r => r.Open ∧ r.settings = (ofSettings name s hosted : Pool T).settings ∧
    r.Prompt t) h.run_eq ⟨open_ofSettings name s hosted, rfl, fun _ hw => absurd hw List.not_mem_nil⟩
    ?_).2.2
  rintro r a r' ha hstep ⟨hopen, hsettings, hprompt⟩
  refine ⟨hopen.happens hstep (h.isCalm a ha), hstep.fixed.1.trans hsettings, ?_⟩
  refine hprompt.happens hopen hstep fun worker now hlook => ?_
  rw [hsettings]
  exact h.late worker now (hlook ▸ ha)

theorem counts : q.idle = q.workers ∧ q.retained = q.workers ∧ q.load.staying = q.workers :=
  h.settled_end.counts h.reachable_end.invariant.counted

/-- While a pool is left alone nobody is added. -/
theorem workers_mono : q.workers ≤ p.workers :=
  run_keeps (P := fun r => r.workers ≤ p.workers) h.wait (Nat.le_refl _) fun hb hstep hr =>
    Nat.le_trans (hstep.workers_le_of_isQuiet (h.quiet _ hb)) hr

/-- What is left is no more than may be kept. -/
theorem workers_le : q.workers ≤ min p.workers s.maxIdle := by
  have hbounded : q.retained ≤ q.settings.maxIdle := h.reachable_end.bounded
  rw [h.counts.2.1, h.reachable_end.fixed.1] at hbounded
  exact Nat.le_min.mpr ⟨h.workers_mono, hbounded⟩

/-- And no fewer, if nobody retires too early. -/
theorem workers_eq (hkeep : Avoids Undercuts (ofSettings name s hosted) (as ++ bs)) :
    q.workers = min p.workers s.maxIdle := by
  obtain ⟨hhistory, hwait⟩ := hkeep.append h.history
  have hstart : (ofSettings name s hosted : Pool T).Watched := Reachable.start.watched
  have hp := hhistory.min_le_staying (open_ofSettings name s hosted) hstart h.calm h.history
    (Nat.zero_min _ ▸ Nat.zero_le _)
  have hq := hwait.min_le_staying_of_quiet h.open_mid h.reachable.watched h.quiet h.wait hp
  rw [h.counts.2.2, h.reachable.fixed.1] at hq
  exact Nat.le_antisymm h.workers_le hq

end Settling

/-! ### Pools at rest -/

/-- Whether all handlers have ended and everyone waits or is gone, with no wake-up on its way. -/
structure AtRest (p : Pool T) : Prop where
  owed : p.owedWakeups = 0
  staff : ∀ w ∈ p.staff, w = .gone ∨ w.isParked = true

/-- Whether everyone waits or leaves, and nobody will be woken. -/
structure Still (p : Pool T) : Prop where
  empty : p.queue = []
  owed : p.owedWakeups = 0
  staff : ∀ w ∈ p.staff, w.waitsOrLeaves = true

theorem AtRest.still (hp : p.AtRest) (hempty : p.queue = []) : p.Still := by
  refine ⟨hempty, hp.owed, fun w hw => ?_⟩
  rcases hp.staff w hw with rfl | hparked
  · rfl
  · cases w with
    | parked due => rfl
    | _ => cases hparked

/-- One worker goes on to wait or to leave, and does not begin to wait for good. -/
theorem Still.set (hp : p.Still) {worker : Nat} {w v : Worker T} (hw : p.staff[worker]? = some w)
    (hstaff : q.staff = p.staff.set worker v) (hempty : q.queue = p.queue)
    (howed : q.owedWakeups = p.owedWakeups) (hv : v.waitsOrLeaves = true)
    (hgood : v.waitsForGood = w.waitsForGood) : q.Still ∧ q.retained = p.retained := by
  refine ⟨⟨hempty.trans hp.empty, howed.trans hp.owed, ?_⟩, ?_⟩
  · rw [hstaff]
    exact forall_mem_set hp.staff worker hv
  · have hset := retained_of_set hw hstaff
    rw [hgood] at hset
    exact Nat.add_right_cancel hset

/-- Nobody who waits for good is roused in a pool that is still. -/
theorem Still.happens (hp : p.Still) (hopen : p.Open) (h : Happens p a q) (ha : a.isQuiet = true) :
    q.Still ∧ q.retained = p.retained := by
  have hnot {worker : Nat} {w : Worker T} (hw : p.staff[worker]? = some w)
      (hother : w.waitsOrLeaves = false) : q.Still ∧ q.retained = p.retained := by
    have hstill := hp.staff w (List.mem_of_getElem? hw)
    rw [hother] at hstill
    cases hstill
  cases h with
  | hire _ _ _ _ _ | accept _ _ _ _ | panic _ _ _ | close => cases ha
  | notify howed =>
    rw [hp.owed] at howed
    cases howed
  | take _ _ _ _ hw _ | leave _ _ hw _ _ | parkWoken _ _ hw _ _ _ | park _ _ _ hw _ _ _ _
  | finish _ _ hw | wake _ hw => exact hnot hw rfl
  | expire worker now due hw _ => exact hp.set hw rfl rfl rfl rfl rfl
  | resign worker heard hw =>
    cases heard with
    | some how => exact hnot hw rfl
    | none =>
      refine hp.set hw rfl rfl rfl ?_ rfl
      rw [hp.empty]
      rfl
  | withdraw worker retires hw =>
    cases retires with
    | false => exact hnot hw rfl
    | true => exact hp.set hw rfl rfl rfl rfl rfl
  | passOn worker retires hw | withdrawWoken worker retires hw => cases retires <;> exact hnot hw rfl
  | strike worker hw => exact hp.set hw rfl rfl rfl rfl rfl
  | announce _ => exact ⟨⟨hp.empty, hp.owed, hp.staff⟩, rfl⟩
  | wakeAll _ hc | register _ hc | readGone _ _ hc _ | readBusy _ _ hc _ | resume _ hc =>
    exact absurd hc hopen.getElem?_ne

/-- From a pool at rest exactly those are left that wait for good. -/
theorem Settling.workers_eq_retained (h : Settling (ofSettings name s hosted) as bs p q t)
    (hp : p.AtRest) : q.workers = p.retained := by
  have hq := run_keeps (P := fun r => r.Open ∧ r.Still ∧ r.retained = p.retained) h.wait
    ⟨h.open_mid, hp.still h.empty, rfl⟩ fun hb hstep ⟨hopen, hstill, hsame⟩ => by
      obtain ⟨hstill', hsame'⟩ := hstill.happens hopen hstep (h.quiet _ hb)
      exact ⟨hopen.happens hstep (PoolAction.isCalm_of_isQuiet (h.quiet _ hb)), hstill',
        hsame'.trans hsame⟩
  rw [← h.counts.2.1]
  exact hq.2.2

/-- At rest everyone waits for good or may retire. -/
theorem AtRest.workers_eq (hp : p.AtRest) (hcounted : p.Counted) :
    p.workers = p.retained + p.limited := by
  have hstaff := hp.staff
  rw [hcounted.workers_eq, retained, limited]
  generalize p.staff = staff at hstaff
  induction staff with
  | nil => rfl
  | cons w rest ih =>
    obtain ⟨hw, hrest⟩ := List.forall_mem_cons.mp hstaff
    have hcount := ih hrest
    rw [List.countP_cons, List.countP_cons, List.countP_cons]
    rcases hw with rfl | hparked
    · simpa [Worker.isAlive, Worker.waitsForGood, Worker.mayRetire] using hcount
    · cases w with
      | parked due => cases due <;> simp [Worker.isAlive, Worker.waitsForGood, Worker.mayRetire] <;> omega
      | _ => cases hparked

/-- So a pool at rest shrinks to what it may keep exactly if it is capped. -/
theorem Settling.workers_eq_iff (h : Settling (ofSettings name s hosted) as bs p q t)
    (hp : p.AtRest) : q.workers = min p.workers s.maxIdle ↔ p.Capped := by
  have hworkers := hp.workers_eq h.reachable.invariant.counted
  have hbounded := h.workers_le
  rw [h.workers_eq_retained hp, Capped, h.reachable.fixed.1]
  rw [h.workers_eq_retained hp] at hbounded
  show _ ↔ p.limited = 0 ∨ p.retained = s.maxIdle
  omega

/-- A pool that is left alone settles, whatever its history. -/
theorem exists_settling (hrun : (ofSettings name s hosted : Pool T).run as = some p)
    (hcalm : ∀ a ∈ as, a.isCalm = true) (hempty : p.queue = [])
    (hclock : (as.filterMap PoolAction.instant?).Pairwise (· ≤ ·)) :
    ∃ bs q t, Settling (ofSettings name s hosted) as bs p q t := by
  have hopen : p.Open := run_keeps hrun (open_ofSettings name s hosted) fun ha hstep hx =>
    hx.happens hstep (hcalm _ ha)
  obtain ⟨bs, q, hquiet, hwait, hsettled, hlater, hafter⟩ :=
    exists_settled hopen hempty (as.filterMap PoolAction.instant?).sum
  refine ⟨bs, q, ((as ++ bs).filterMap PoolAction.instant?).sum + s.idleTimeout + 1, hrun, hcalm,
    hempty, hwait, hquiet, ?_, ?_, hsettled.settledAt _⟩
  · refine List.pairwise_append.mpr ⟨?_, List.pairwise_singleton _ _, fun now hnow t ht => ?_⟩
    · rw [List.filterMap_append]
      refine List.pairwise_append.mpr ⟨hclock, hlater, fun before hbefore now hnow => ?_⟩
      exact Nat.le_trans (List.le_sum_of_mem hbefore) (hafter now hnow)
    · rw [List.mem_singleton.mp ht]
      have hle := List.le_sum_of_mem hnow
      omega
  · intro worker now hlook
    have hle := List.le_sum_of_mem (List.mem_filterMap.mpr ⟨_, hlook, rfl⟩ :
      now ∈ (as ++ bs).filterMap PoolAction.instant?)
    exact Nat.lt_succ_of_le (Nat.add_le_add_right hle _)

/-! ### Coming to rest with too few -/

/-- So many tasks bring so many workers while nobody is idle. -/
theorem run_hires (task : T) (n : Nat) (hopen : p.closed = false) (hidle : p.idle = 0)
    (hhosted : p.hosted = true) (hroom : p.workers + n ≤ p.settings.maxWorkers) :
    p.run (List.replicate n (.submit task)) = some { p with
      queue := p.queue ++ List.replicate n task
      accepted := p.accepted ++ List.replicate n task
      workers := p.workers + n
      staff := p.staff ++ List.replicate n .looking } := by
  induction n generalizing p with
  | zero => simp [run]
  | succ n ih =>
    have hless : p.workers < p.settings.maxWorkers := by omega
    have hsubmit : p.submit task = .ok { p.enqueue task with
        workers := p.workers + 1, staff := p.staff ++ [.looking] } := by
      simp [submit, hopen, not_isSaturated_of_lt hless, wantsWorker_iff.mpr ⟨hidle, hless⟩, hhosted]
    rw [List.replicate_succ, run, step, hsubmit]
    refine (ih (p := { p.enqueue task with workers := p.workers + 1, staff := p.staff ++ [.looking] })
      hopen hidle hhosted (Nat.le_trans (Nat.le_of_eq (by simp only; omega)) hroom)).trans ?_
    simp [enqueue, List.replicate_succ, Nat.add_right_comm, Nat.add_assoc]

/-- The first worker does all the tasks. -/
theorem run_drains {rest : List (Worker T)} {tasks : List T} (hstaff : p.staff = .looking :: rest)
    (hqueue : p.queue = tasks) :
    ∃ handed, p.run (tasks.flatMap fun _ => [.look 0 0, .finish 0]) =
      some { p with queue := [], handed := handed } := by
  induction tasks generalizing p with
  | nil =>
    refine ⟨p.handed, congrArg some ?_⟩
    rw [← hqueue]
  | cons task tasks ih =>
    have hdone : p.run [.look 0 0, .finish 0] =
        some { p with queue := tasks, handed := p.handed ++ [task] } := by
      simp [run, step, setWorker, hstaff, hqueue]
    obtain ⟨handed, hrest⟩ :=
      ih (p := { p with queue := tasks, handed := p.handed ++ [task] }) hstaff rfl
    refine ⟨handed, ?_⟩
    rw [List.flatMap_cons, run_append, hdone]
    exact hrest

/-- Looking workers go idle one after the other, and wait for good while they may. -/
theorem run_parks (front rest : List (Worker T)) (n : Nat) (hopen : p.closed = false)
    (hempty : p.queue = []) (hpermit : p.permit = false) (hfront : front.length = p.idle)
    (hstaff : p.staff = front ++ List.replicate n .looking ++ rest)
    (hroom : p.idle + n ≤ p.settings.maxIdle) :
    p.run ((List.range' p.idle n).map (.look · 0)) = some { p with
      staff := front ++ List.replicate n (.parked none) ++ rest
      idle := p.idle + n
      line := p.line ++ List.range' p.idle n } := by
  induction n generalizing p front with
  | zero =>
    refine congrArg some ?_
    rw [List.replicate_zero] at hstaff ⊢
    rw [← hstaff, List.range'_zero, List.append_nil]
    rfl
  | succ n ih =>
    have hpark : p.step (.look p.idle 0) = some { p with
        staff := front ++ [.parked none] ++ List.replicate n .looking ++ rest
        idle := p.idle + 1
        line := p.line ++ [p.idle] } := by
      have hlooking : p.staff[p.idle]? = some .looking := by
        rw [hstaff, ← hfront, List.append_assoc, List.getElem?_append_right (Nat.le_refl _)]
        simp [List.replicate_succ]
      have hset : p.staff.set p.idle (.parked none) =
          front ++ [.parked none] ++ List.replicate n .looking ++ rest := by
        rw [hstaff, ← hfront, List.append_assoc, List.set_append_right _ _ (Nat.le_refl _)]
        simp [List.replicate_succ]
      have hfree : p.nextIsBounded = false := by
        simp only [nextIsBounded, decide_eq_false_iff_not]
        omega
      simp [step, hlooking, hempty, hopen, park, hpermit, hfree, setWorker, hset]
    rw [List.range'_succ, List.map_cons, run, hpark]
    refine (ih (p := { p with
      staff := front ++ [.parked none] ++ List.replicate n .looking ++ rest
      idle := p.idle + 1
      line := p.line ++ [p.idle] }) (front ++ [.parked none]) hopen hempty hpermit ?_ rfl ?_).trans ?_
    · simp [hfront]
    · simp only; omega
    · simp [List.replicate_succ, Nat.add_right_comm, Nat.add_assoc]

/-- One worker too many goes idle; then the first of those that wait for good is woken for a task, and
goes idle behind it. -/
theorem run_slips (front : List (Worker T)) (line : List Nat) (task : T) (hopen : p.closed = false)
    (hempty : p.queue = []) (hpermit : p.permit = false) (howed : p.owedWakeups = 0)
    (hstaff : p.staff = .parked none :: (front ++ [.looking])) (hline : p.line = 0 :: line)
    (hidle : p.idle = front.length + 1) (hfull : p.settings.maxIdle = p.idle)
    (hroom : 0 < p.settings.maxTasks) :
    ∃ q, p.run [.look p.idle 0, .submit task, .notify, .wake 0, .look 0 0, .finish 0, .look 0 0] =
        some q ∧ q.settings = p.settings ∧ q.queue = [] ∧ q.owedWakeups = 0 ∧
      q.staff = .parked (some p.settings.idleTimeout) ::
        (front ++ [.parked (some p.settings.idleTimeout)]) := by
  have hroom' : p.settings.maxTasks ≠ 0 := Nat.ne_of_gt hroom
  simp [run, step, submit, isSaturated, wantsWorker, enqueue, wakeOne, park, nextIsBounded, setWorker,
    Worker.hear, hopen, hempty, hpermit, howed, hstaff, hline, hidle, hfull, hroom']

theorem counts_of_slipped {k due : Nat} (hstaff : p.staff = .parked (some due) ::
    (List.replicate k (.parked none) ++ [.parked (some due)])) :
    p.limited = 2 ∧ p.retained = k := by
  rw [limited, retained, hstaff]
  simp [List.countP_cons, List.countP_append, List.countP_replicate, Worker.mayRetire,
    Worker.waitsForGood]

/-- A pool for more workers than it may keep can come to rest with too few that wait for good. -/
theorem exists_slipped (name : String) {s : PoolSettings} (hkeep : 0 < s.maxIdle)
    (hmore : s.maxIdle < s.maxWorkers) (task : T) :
    ∃ as p, (ofSettings name s true : Pool T).run as = some p ∧
      (∀ a ∈ as, PoolAction.isCalm a = true) ∧
      (as.filterMap PoolAction.instant?).Pairwise (· ≤ ·) ∧
      p.queue = [] ∧ p.AtRest ∧ ¬p.Capped := by
  obtain ⟨k, hk⟩ : ∃ k, s.maxIdle = k + 1 := Nat.exists_eq_succ_of_ne_zero (Nat.ne_of_gt hkeep)
  let start : Pool T := ofSettings name s true
  -- All workers are there, and the first one has done the tasks.
  let hired : Pool T := { start with
    queue := List.replicate (s.maxIdle + 1) task
    accepted := List.replicate (s.maxIdle + 1) task
    workers := 0 + (s.maxIdle + 1)
    staff := List.replicate (s.maxIdle + 1) .looking }
  have hhired : start.run (List.replicate (s.maxIdle + 1) (.submit task)) = some hired := by
    refine run_hires task (s.maxIdle + 1) rfl rfl rfl ?_
    show 0 + (s.maxIdle + 1) ≤ max s.maxWorkers 1
    omega
  obtain ⟨handed, hdrained⟩ := run_drains (p := hired) (List.replicate_succ) rfl
  -- As many as may wait for good do.
  let parked : Pool T := { hired with
    queue := []
    handed := handed
    staff := List.replicate s.maxIdle (.parked none) ++ [.looking]
    idle := 0 + s.maxIdle
    line := List.range' 0 s.maxIdle }
  have hparked : ({ hired with queue := [], handed := handed } : Pool T).run
      ((List.range' 0 s.maxIdle).map (.look · 0)) = some parked :=
    run_parks [] [.looking] s.maxIdle rfl rfl rfl rfl
      List.replicate_succ' (Nat.le_of_eq (Nat.zero_add _))
  obtain ⟨p, hslipped, hsettings, hempty, howed, hstaff⟩ := run_slips (p := parked)
    (List.replicate k (.parked none)) (List.range' 1 k) task rfl rfl rfl rfl
    (by simp only [parked, hk]; rfl) (by simp only [parked, hk]; rfl) (by simp [parked, hk])
    (Nat.zero_add _).symm (Nat.lt_of_lt_of_le Nat.one_pos (Nat.le_max_right _ _))
  let as : List (PoolAction T) := List.replicate (s.maxIdle + 1) (.submit task) ++
    ((List.replicate (s.maxIdle + 1) task).flatMap (fun _ => [.look 0 0, .finish 0]) ++
      ((List.range' 0 s.maxIdle).map (.look · 0) ++
        [.look parked.idle 0, .submit task, .notify, .wake 0, .look 0 0, .finish 0, .look 0 0]))
  have hrun : start.run as = some p := by
    rw [run_append, hhired, Option.bind_some, run_append]
    refine Option.bind_eq_some_iff.mpr ⟨_, hdrained, ?_⟩
    rw [run_append, hparked]
    exact hslipped
  have has : ∀ a ∈ as, a.isCalm = true ∧ ∀ now ∈ a.instant?, now = 0 := by
    intro a ha
    simp only [as, List.mem_append, List.mem_replicate, List.mem_flatMap, List.mem_map,
      List.mem_cons, List.not_mem_nil, or_false] at ha
    rcases ha with ⟨-, rfl⟩ | ⟨_, -, rfl | rfl⟩ | ⟨_, -, rfl⟩ | rfl | rfl | rfl | rfl | rfl | rfl | rfl <;>
      simp [PoolAction.isCalm, PoolAction.instant?]
  refine ⟨as, p, hrun, fun a ha => (has a ha).1, ?_, hempty, ⟨howed, ?_⟩, ?_⟩
  · -- Everything happens at the instant zero.
    refine List.pairwise_of_forall_mem_list fun before hbefore now _ => ?_
    obtain ⟨a, ha, hinstant⟩ := List.mem_filterMap.mp hbefore
    rw [(has a ha).2 before hinstant]
    exact Nat.zero_le now
  · intro w hw
    simp only [hstaff, List.mem_cons, List.mem_append, List.mem_replicate, List.not_mem_nil,
      or_false] at hw
    rcases hw with rfl | ⟨-, rfl⟩ | rfl <;> exact .inr rfl
  · obtain ⟨hlimited, hretained⟩ := counts_of_slipped hstaff
    rw [Capped, hlimited, hretained, hsettings]
    show ¬(2 = 0 ∨ k = s.maxIdle)
    omega

/-! ### Pools that need not shrink -/

theorem Counted.idle_lt_workers (hp : p.Counted) {worker : Nat}
    (hw : p.staff[worker]? = some .looking) : p.idle < p.workers := by
  have hidle := countP_set_add Worker.isIdle .gone hw
  have halive := countP_set_add Worker.isAlive .gone hw
  have hle : (p.staff.set worker .gone).countP Worker.isIdle ≤
      (p.staff.set worker .gone).countP Worker.isAlive :=
    List.countP_mono_left fun _ _ => Worker.isAlive_of_isIdle
  change _ + 0 = _ + 0 at hidle
  change _ + 1 = _ + 0 at halive
  rw [hp.idle_eq, hp.workers_eq]
  omega

/-- In a pool for no more workers than may be kept nobody may retire. -/
theorem Happens.mayRetire_eq_false (h : Happens p a q) (hopen : p.Open) (hstaffed : p.Staffed)
    (hmany : p.settings.maxWorkers ≤ p.settings.maxIdle)
    (hp : ∀ w ∈ p.staff, w.mayRetire = false) : ∀ w ∈ q.staff, w.mayRetire = false := by
  refine h.forall_mem hopen hp ?_ ?_ ?_ ?_
  · intro w hw
    cases w with
    | expired heard => cases hw
    | withdrawing retires heard => cases heard <;> rfl
    | _ => rfl
  · intro w hparked hexpired
    cases w with
    | parked due => cases hparked
    | expired heard => exact absurd rfl (hexpired heard)
    | _ => rfl
  · intro due hdue
    cases hdue
  · intro worker now _ hw
    have hless := hstaffed.invariant.counted.idle_lt_workers hw
    have hmax := hstaffed.workers_le
    have hfree : p.nextIsBounded = false := by
      simp only [nextIsBounded, decide_eq_false_iff_not]
      omega
    rw [hfree]
    rfl

/-- So nobody retires too early there. -/
theorem avoids_undercuts_of_le (hmany : s.maxWorkers ≤ s.maxIdle) (hkeep : 0 < s.maxIdle)
    (hcalm : ∀ a ∈ as, PoolAction.isCalm a = true) :
    Avoids Undercuts (ofSettings name s hosted : Pool T) as := by
  intro n r a hr ha hunder
  have hnone : ∀ w ∈ r.staff, w.mayRetire = false := by
    refine (run_keeps (P := fun r => r.Open ∧ r.Staffed ∧
      r.settings = (ofSettings name s hosted : Pool T).settings ∧ ∀ w ∈ r.staff, w.mayRetire = false) hr
      ⟨open_ofSettings name s hosted, staffed_ofSettings name s hosted, rfl,
        fun _ hw => absurd hw List.not_mem_nil⟩ ?_).2.2.2
    rintro r b r' hb hstep ⟨hopen, hstaffed, hsettings, hnone⟩
    have hmax : r.settings.maxWorkers ≤ r.settings.maxIdle := by
      rw [hsettings]
      exact Nat.max_le.mpr ⟨hmany, hkeep⟩
    exact ⟨hopen.happens hstep (hcalm b (List.mem_of_mem_take hb)), hstaffed.happens hstep,
      hstep.fixed.1.trans hsettings, hstep.mayRetire_eq_false hopen hstaffed hmax hnone⟩
  cases a with
  | resign worker =>
    obtain ⟨⟨heard, hw⟩, -⟩ := hunder
    cases hnone _ (List.mem_of_getElem? hw)
  | _ => exact hunder

/-! ### Any history -/

/-- How a pool that came by `as` to `p` shrinks when it is left alone for `bs` until it has come to
`q`, if `keep` workers may be kept. -/
structure Shrinks (start : Pool T) (keep : Nat) (as bs : List (PoolAction T)) (p q : Pool T) :
    Prop where
  idle_eq : q.idle = q.workers
  workers_le : q.workers ≤ min p.workers keep
  /-- It shrinks exactly if nobody retires too early. -/
  workers_eq : Avoids Undercuts start (as ++ bs) → q.workers = min p.workers keep
  /-- Nobody does if no step slips. -/
  avoids_undercuts : Avoids Slips start (as ++ bs) → Avoids Undercuts start (as ++ bs)
  /-- No step slips if and only if the pool is capped throughout. -/
  capped_iff : (∀ n r, start.run ((as ++ bs).take n) = some r → r.Capped) ↔
    Avoids Slips start (as ++ bs)
  /-- From a pool at rest it shrinks exactly if and only if that pool is capped. -/
  workers_eq_iff : p.AtRest → (q.workers = min p.workers keep ↔ p.Capped)

/-- Whether a pool settles when it is left alone with an empty queue, whatever happened to it short of
panics and shutdowns. -/
def AlwaysSettles (start : Pool T) : Prop :=
  ∀ as p, start.run as = some p → (∀ a ∈ as, a.isCalm = true) → p.queue = [] →
    (as.filterMap PoolAction.instant?).Pairwise (· ≤ ·) → ∃ bs q t, Settling start as bs p q t

/-- Whether after every history as many workers are left as may be kept, or all that there were. -/
def ShrinksExactly (start : Pool T) (keep : Nat) : Prop :=
  ∀ as bs p q t, Settling start as bs p q t → q.workers = min p.workers keep

/-- **When a pool shrinks exactly to what it may keep.**  Whatever happened to a pool, short of
panics and shutdowns, it settles when it is left alone with an empty queue; then everyone who is
left is idle, and there are no more than may be kept nor than there were.

They are as many as may be kept, or all there were if those are fewer, when nobody on the way
retired while no more were idle than may be kept.  This is so when no step on the way slipped, which
is to say that the pool was capped throughout.  From a pool at rest it comes out exactly if that
pool is capped.

It comes out for every history exactly if the pool has no workers, keeps none, or may keep all. -/
theorem shrinks_iff (name : String) (s : PoolSettings) (hosted : Bool) (task : T) :
    let start : Pool T := ofSettings name s hosted
    (∀ as bs p q t, Settling start as bs p q t → Shrinks start s.maxIdle as bs p q) ∧
    AlwaysSettles start ∧
    (ShrinksExactly start s.maxIdle ↔
      hosted = false ∨ s.maxIdle = 0 ∨ s.maxWorkers ≤ s.maxIdle) := by
  intro start
  have hopen : start.Open := open_ofSettings name s hosted
  have hwatched : start.Watched := Reachable.start.watched
  have hcapped : start.Capped := capped_ofSettings name s hosted
  refine ⟨fun as bs p q t h => ⟨h.counts.1, h.workers_le, h.workers_eq, fun hslips => ?_, ?_,
    h.workers_eq_iff⟩, fun as p => exists_settling, ?_, ?_⟩
  · exact hslips.not_undercuts hcapped hwatched hopen h.isCalm h.run_eq
  · exact capped_run_iff hcapped hwatched hopen h.isCalm h.run_eq
  · intro hall
    by_contra hnot
    obtain ⟨hhosted, hkeep, hmore⟩ : hosted ≠ false ∧ s.maxIdle ≠ 0 ∧ ¬s.maxWorkers ≤ s.maxIdle := by
      simpa only [not_or] using hnot
    obtain rfl := Bool.eq_true_of_not_eq_false hhosted
    obtain ⟨as, p, hrun, hcalm, hclock, hempty, hrest, hslipped⟩ :=
      exists_slipped name (Nat.pos_of_ne_zero hkeep) (Nat.lt_of_not_le hmore) task
    obtain ⟨bs, q, t, hsettling⟩ := exists_settling hrun hcalm hempty hclock
    exact hslipped ((hsettling.workers_eq_iff hrest).mp (hall as bs p q t hsettling))
  · rintro hsmall as bs p q t h
    by_cases hkeep : s.maxIdle = 0
    · have hle := h.workers_le
      omega
    · rcases hsmall with rfl | hzero | hmany
      · have hp := h.reachable.accepted_eq_nil.1
        have hle := h.workers_le
        omega
      · exact absurd hzero hkeep
      · exact h.workers_eq (avoids_undercuts_of_le hmany (Nat.pos_of_ne_zero hkeep) h.isCalm)

/-- Two workers go idle, of which one may be kept; the other retires. -/
theorem shrinks_two :
    let start : Pool Nat := ofSettings "two" { maxWorkers := 2, maxIdle := 1, idleTimeout := 5 } true
    let as : List (PoolAction Nat) := [.submit 1, .submit 2, .look 0 0, .look 1 0, .finish 0,
      .finish 1, .look 0 0, .look 1 0]
    let bs : List (PoolAction Nat) := [.expire 1 5, .resign 1, .withdraw 1, .strike 1]
    ∃ p q, Settling start as bs p q 6 ∧ p.workers = 2 ∧ q.workers = min 2 1 ∧
      q.idle = q.workers := by
  intro start as bs
  have hmid : (start.run as).map (fun p => (p.queue, p.workers, p.owedWakeups, p.staff)) =
      some ([], 2, 0, [.parked none, .parked (some 5)]) := by decide +kernel
  have hend : (start.run (as ++ bs)).map (fun q => (q.owedWakeups, q.staff)) =
      some (0, [.parked none, .gone]) := by decide +kernel
  obtain ⟨p, hp, hfacts⟩ := Option.map_eq_some_iff.mp hmid
  obtain ⟨q, hq, hfacts'⟩ := Option.map_eq_some_iff.mp hend
  simp only [Prod.mk.injEq] at hfacts hfacts'
  obtain ⟨hempty, hworkers, howed, hstaff⟩ := hfacts
  obtain ⟨howed', hstaff'⟩ := hfacts'
  have hsettling : Settling start as bs p q 6 := by
    refine ⟨hp, by decide, hempty, run_of_run_append hp hq, by decide, by decide, ?_, ⟨howed', ?_⟩⟩
    · intro worker now hlook
      have hnow : now = 0 := by
        simp only [as, bs, List.cons_append, List.nil_append, List.mem_cons, List.not_mem_nil,
          PoolAction.look.injEq, reduceCtorEq, false_or, or_false] at hlook
        omega
      exact hnow ▸ (by decide : 0 + 5 < 6)
    · simp [hstaff']
  have hrest : p.AtRest := by
    refine ⟨howed, ?_⟩
    simp [hstaff, Worker.isParked]
  have hcapped : p.Capped := by
    right
    rw [retained, hstaff, (reachable_iff_run.mpr ⟨as, hp⟩ : Reachable _ _ _ p).fixed.1]
    rfl
  obtain ⟨hall, -, -⟩ := shrinks_iff "two" { maxWorkers := 2, maxIdle := 1, idleTimeout := 5 } true 0
  have hshrinks := hall as bs p q 6 hsettling
  have hexact := (hshrinks.workers_eq_iff hrest).mpr hcapped
  exact ⟨p, q, hsettling, hworkers, hworkers ▸ hexact, hshrinks.idle_eq⟩

/-- Two workers go idle, of which one may be kept.  A task wakes that one, which goes idle behind the
other, and both retire. -/
theorem shrinks_to_none :
    let start : Pool Nat := ofSettings "two" { maxWorkers := 2, maxIdle := 1, idleTimeout := 5 } true
    let as : List (PoolAction Nat) := [.submit 1, .submit 2, .look 0 0, .look 1 0, .finish 0,
      .finish 1, .look 0 0, .look 1 0, .submit 3, .notify, .wake 0, .look 0 0, .finish 0, .look 0 0]
    let bs : List (PoolAction Nat) := [.expire 1 5, .resign 1, .withdraw 1, .strike 1,
      .expire 0 5, .resign 0, .withdraw 0, .strike 0]
    ∃ p q, Settling start as bs p q 6 ∧ p.workers = 2 ∧ q.workers = 0 ∧
      ¬Avoids Undercuts start (as ++ bs) := by
  intro start as bs
  have hmid : (start.run as).map (fun p => (p.queue, p.workers)) = some ([], 2) := by decide +kernel
  have hend : (start.run (as ++ bs)).map (fun q => (q.owedWakeups, q.staff, q.workers)) =
      some (0, [.gone, .gone], 0) := by decide +kernel
  have hlast : (start.run ((as ++ bs).take 19)).map
      (fun r => (r.staff, r.queue, r.idle, r.settings.maxIdle)) =
        some ([.expired none, .gone], [], 1, 1) := by decide +kernel
  obtain ⟨p, hp, hfacts⟩ := Option.map_eq_some_iff.mp hmid
  obtain ⟨q, hq, hfacts'⟩ := Option.map_eq_some_iff.mp hend
  obtain ⟨r, hr, hfacts''⟩ := Option.map_eq_some_iff.mp hlast
  simp only [Prod.mk.injEq] at hfacts hfacts' hfacts''
  obtain ⟨hempty, hworkers⟩ := hfacts
  obtain ⟨howed, hstaff, hgone⟩ := hfacts'
  obtain ⟨hstaff', hempty', hidle, hkeep⟩ := hfacts''
  refine ⟨p, q, ⟨hp, by decide, hempty, run_of_run_append hp hq, by decide, by decide, ?_,
    ⟨howed, ?_⟩⟩, hworkers, hgone, fun havoids => ?_⟩
  · intro worker now hlook
    have hnow : now = 0 := by
      simp only [as, bs, List.cons_append, List.nil_append, List.mem_cons, List.not_mem_nil,
        PoolAction.look.injEq, reduceCtorEq, false_or, or_false] at hlook
      omega
    exact hnow ▸ (by decide : 0 + 5 < 6)
  · simp [hstaff]
  · refine havoids 19 r (.resign 0) hr rfl ⟨⟨none, ?_⟩, hempty', ?_⟩
    · rw [hstaff']
      rfl
    · rw [hidle, hkeep]

end Pool
end MailPolicy
