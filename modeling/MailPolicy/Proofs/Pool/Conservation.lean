/-
Whether a pool makes use of the workers that it may have.

When nobody can go on but the calls of the handler, a task should be left in the queue only if all
workers that there may be are inside a call.  A worker that is parked never leaves a task behind:
each task that it is accepted for comes with a wake-up.  But a task can be accepted for an idle
worker that others have come for already, or while a worker is leaving, and a handler that panics
takes its worker with it.  Then the queue holds more tasks than there are workers ready for them,
fewer workers stay than there may be, and no worker is added until another task comes.

* `Pool.Heeded` — while somebody is parked, every task in the queue will be looked at;
* `Pool.Provided` — there is a ready worker for each task in the queue, or all workers stay;
* `Pool.Overlooks` — an action is one of those that lose this, and `Pool.Happens.provided_iff` says
  that no other does;
* `Pool.exists_rest` — a pool that is not provided for comes to rest that way by itself;
* `Pool.run_conserving_iff` — **a pool that goes on by itself from any state of a run comes to rest
  only with an empty queue or all workers inside the handler, exactly if nothing in the run
  overlooks a task**.
-/
import Mathlib.Algebra.GroupWithZero.Nat
import MailPolicy.Proofs.Pool.Backpressure

namespace MailPolicy

variable {T : Type}

namespace Worker

/-- Whether a worker will look at the queue next, of its own accord. -/
def comes : Worker T → Bool
  | looking | woken | expired _ | withdrawing false _ => true
  | _ => false

/-- An upper bound on what a worker does until it is parked, inside the handler or gone. -/
def stepsLeft : Worker T → Nat
  | gone | running _ => 0
  | looking | exiting => 1
  | woken | withdrawing _ _ => 2
  | parked _ | expired _ => 3

theorem isParked_hear (how : Wakeup) (w : Worker T) : (w.hear how).isParked = false := by
  rcases w with _ | _ | _ | _ | (_ | _) | ⟨_, _ | _⟩ | _ | _ <;> rfl

theorem stepsLeft_hear (how : Wakeup) (w : Worker T) : (w.hear how).stepsLeft ≤ w.stepsLeft := by
  rcases w with _ | _ | _ | _ | (_ | _) | ⟨_, _ | _⟩ | _ | _ <;> simp [hear, stepsLeft]

/-- Whoever is in line comes to look when it is woken, or has one more wake-up to pass on. -/
theorem comes_hear {w : Worker T} (h : w.isInLine = true) :
    (w.hear .one).comes.toNat + (w.hear .one).holdsWakeup.toNat =
      w.comes.toNat + w.holdsWakeup.toNat + 1 := by
  rcases w with _ | _ | _ | _ | (_ | _) | ⟨_ | _, _ | _⟩ | _ | _ <;> first | rfl | cases h

/-- Whoever is about to look, or has a wake-up to pass on, can go on. -/
theorem isUp {w : Worker T} (h : w.comes = true ∨ w.holdsWakeup = true) :
    w ≠ .gone ∧ w.isRunning = false ∧ w.isParked = false := by
  cases w with
  | gone | running _ | parked _ => rcases h with h | h <;> cases h
  | _ => exact ⟨nofun, rfl, rfl⟩

theorem isReady_of_isRunning {w : Worker T} (h : w.isRunning = true) :
    w.isReady = false ∧ w.stays = true := by
  cases w <;> first | exact ⟨rfl, rfl⟩ | cases h

theorem isIdle_of_isParked {w : Worker T} (h : w.isParked = true) : w.isIdle = true := by
  cases w <;> first | rfl | cases h

end Worker

namespace Pool

variable {p q : Pool T} {a : PoolAction T}

/-! ### Parked workers -/

/-- How often somebody will look at the queue without being woken, or wake another. -/
def prompted (p : Pool T) : Nat :=
  p.staff.countP Worker.comes + p.staff.countP Worker.holdsWakeup + p.owedWakeups

/-- Whether every task in the queue will be looked at while somebody is parked. -/
def Heeded (p : Pool T) : Prop :=
  0 < p.staff.countP Worker.isParked → p.queue.length ≤ p.prompted

theorem modify_eq_set {α : Type} {l : List α} {i : Nat} {x : α} (g : α → α) (h : l[i]? = some x) :
    l.modify i g = l.set i (g x) := by
  rw [List.modify_eq_set_getElem?, h]
  rfl

/-- While somebody is parked, waking one is heard. -/
theorem Heeded.wakeOne (hp : p.Lined)
    (h : 0 < p.staff.countP Worker.isParked → p.queue.length ≤ p.prompted + 1) :
    p.wakeOne.Heeded := by
  intro hparked
  cases hline : p.line with
  | nil =>
    -- Whoever is parked is in line.
    exfalso
    rw [wakeOne_of_nil hline] at hparked
    obtain ⟨w, hw, hwparked⟩ := List.countP_pos_iff.mp hparked
    obtain ⟨i, hi⟩ := List.mem_iff_getElem?.mp hw
    have hmem : i ∈ p.line := by
      rw [hp.mem_line_iff, standsInLine_iff]
      exact ⟨w, hi, Worker.isInLine_of_isParked hwparked⟩
    rw [hline] at hmem
    exact List.not_mem_nil hmem
  | cons worker rest =>
    have hfirst := (hp.mem_line_iff worker).mp (hline ▸ List.mem_cons_self)
    obtain ⟨w, hw, hinLine⟩ := standsInLine_iff.mp hfirst
    rw [wakeOne_of_cons hline] at hparked ⊢
    simp only [modify_eq_set _ hw] at hparked ⊢
    have hcomes := countP_set_add Worker.comes (w.hear .one) hw
    have hholds := countP_set_add Worker.holdsWakeup (w.hear .one) hw
    have hleft := countP_set_add Worker.isParked (w.hear .one) hw
    rw [Worker.isParked_hear, Bool.toNat_false] at hleft
    have hheard := Worker.comes_hear hinLine
    have hqueue := h (by omega)
    show p.queue.length ≤ _
    unfold prompted at hqueue ⊢
    dsimp only
    omega

/-- One worker changes and is not parked then.  The looks that are not to come any more are made up
for, but for the given number. -/
theorem Heeded.of_set (hp : p.Heeded) (n : Nat) {worker : Nat} {w v : Worker T}
    (hw : p.staff[worker]? = some w) (hstaff : q.staff = p.staff.set worker v)
    (hv : v.isParked = false) (howed : q.owedWakeups = p.owedWakeups)
    (hle : q.queue.length + (w.comes.toNat + w.holdsWakeup.toNat) ≤
      p.queue.length + (v.comes.toNat + v.holdsWakeup.toNat) + n) :
    0 < q.staff.countP Worker.isParked → q.queue.length ≤ q.prompted + n := by
  intro hparked
  rw [hstaff] at hparked
  have hcomes := countP_set_add Worker.comes v hw
  have hholds := countP_set_add Worker.holdsWakeup v hw
  have hleft := countP_set_add Worker.isParked v hw
  rw [hv, Bool.toNat_false] at hleft
  have hqueue := hp (by omega)
  unfold prompted at hqueue ⊢
  rw [hstaff, howed]
  omega

theorem Heeded.of_empty (hq : q.queue = []) : q.Heeded := by
  intro _
  rw [hq]
  exact Nat.zero_le _

theorem Heeded.happens (hp : p.Heeded) (hinv : p.Invariant) (h : Happens p a q) : q.Heeded := by
  cases h with
  | hire task _ _ hwants _ =>
    -- Nobody is idle, so nobody is parked.
    intro hparked
    exfalso
    have hnone : p.staff.countP Worker.isIdle = 0 := by
      rw [← hinv.counted.idle_eq]
      exact (wantsWorker_iff.mp hwants).1
    have hle : p.staff.countP Worker.isParked ≤ p.staff.countP Worker.isIdle :=
      List.countP_mono_left fun _ _ => Worker.isIdle_of_isParked
    have hsame : (p.staff ++ [Worker.looking]).countP Worker.isParked =
        p.staff.countP Worker.isParked := List.countP_append ..
    have hpos : 0 < (p.staff ++ [Worker.looking]).countP Worker.isParked := hparked
    omega
  | accept task _ _ _ =>
    intro hparked
    show (p.queue ++ [task]).length ≤ p.prompted + 1
    rw [List.length_append, List.length_singleton]
    exact Nat.succ_le_succ (hp hparked)
  | notify howed =>
    refine Heeded.wakeOne ⟨hinv.lined.nodup, hinv.lined.mem_line_iff, hinv.lined.line_of_permit⟩
      fun hparked => ?_
    have hqueue := hp hparked
    have hone : p.owedWakeups - 1 + 1 = p.owedWakeups := Nat.sub_add_cancel howed
    rw [prompted, ← hone] at hqueue
    exact hqueue
  | take worker now task rest hw hqueue =>
    refine hp.of_set 0 hw rfl rfl rfl ?_
    rw [hqueue]
    exact Nat.le_refl _
  | leave worker now _ hempty _ => exact .of_empty hempty
  | parkWoken worker now _ hempty _ _ => exact .of_empty hempty
  | park worker now due _ hempty _ _ _ => exact .of_empty hempty
  | finish worker task hw => exact hp.of_set 0 hw rfl rfl rfl (Nat.le_succ _)
  | panic worker task hw => exact hp.of_set 0 hw rfl rfl rfl (Nat.le_refl _)
  | wake worker hw => exact hp.of_set 0 hw rfl rfl rfl (Nat.le_refl _)
  | expire worker now due hw _ => exact hp.of_set 0 hw rfl rfl rfl (Nat.le_succ _)
  | resign worker heard hw =>
    cases hqueue : p.queue with
    | nil => exact .of_empty hqueue
    | cons task rest =>
      rcases heard with _ | _ | _ <;> exact hp.of_set 0 hw rfl rfl rfl (Nat.le_refl _)
  | withdraw worker retires hw =>
    cases retires <;> exact hp.of_set 0 hw rfl rfl rfl (Nat.le_refl _)
  | passOn worker retires hw =>
    -- The wake-up is not lost with the worker that had it.
    have hlined : (p.setWorker worker (if retires then .exiting else .looking)).Lined := by
      cases retires <;> exact hinv.lined.set _ hw rfl rfl rfl id
    refine Heeded.wakeOne hlined ?_
    cases retires <;> exact hp.of_set 1 hw rfl rfl rfl (Nat.le_refl _)
  | withdrawWoken worker retires hw =>
    cases retires <;> exact hp.of_set 0 hw rfl rfl rfl (Nat.le_refl _)
  | strike worker hw => exact hp.of_set 0 hw rfl rfl rfl (Nat.le_refl _)
  | wakeAll closer _ =>
    -- Everyone in line was woken, and nobody is parked elsewhere.
    intro hparked
    exfalso
    obtain ⟨w, hw, hwparked⟩ := List.countP_pos_iff.mp hparked
    obtain ⟨i, hi⟩ := List.mem_iff_getElem?.mp hw
    have hmem := (hinv.lined.wakeLine.mem_line_iff i).mpr
      (standsInLine_iff.mpr ⟨w, hi, Worker.isInLine_of_isParked hwparked⟩)
    exact List.not_mem_nil hmem
  | announce _ | close | register _ _ | readGone _ _ _ _ | readBusy _ _ _ _ | resume _ _ => exact hp

/-! ### Workers for all tasks -/

/-- Whether there is a ready worker for each task in the queue, or all workers stay. -/
def Provided (p : Pool T) : Prop :=
  p.load.queued ≤ p.load.ready ∨ p.settings.maxWorkers ≤ p.load.staying

/-- Whether an action leaves a task without a worker that could be had: a task is accepted without
a new worker although every ready worker has one to see to and not all workers stay, or a handler
panics while there are more tasks than ready workers. -/
def Overlooks (p : Pool T) : PoolAction T → Prop
  | .submit _ => p.wantsWorker = false ∧ p.load.ready ≤ p.load.queued ∧
      p.load.staying < p.settings.maxWorkers
  | .panic _ => p.load.ready < p.load.queued
  | _ => False

theorem not_overlooks_of_isFree (ha : a.isFree = true) : ¬p.Overlooks a := by
  intro hover
  cases a with
  | submit task => cases ha
  | panic worker => cases ha
  | _ => exact hover

/-- A step keeps a pool provided for, or overlooks a task. -/
theorem Happens.provided_iff (h : Happens p a q) (hstaffed : p.Staffed) (hp : p.Provided) :
    q.Provided ↔ ¬p.Overlooks a := by
  have hstaying := hstaffed.staying_le
  have hmax := hstaffed.workers_le
  unfold Provided at hp ⊢
  rw [h.fixed.1]
  have hshift := h.shift
  generalize q.load = l at hshift
  cases hshift with
  | hires task _ hwants hqueued hready hstays =>
    refine iff_of_true (by omega) fun hover => ?_
    rw [hover.1] at hwants
    cases hwants
  | accepts task _ _ hwants hqueued hready hstays =>
    constructor
    · intro hq hover
      obtain ⟨-, hfew, hroom⟩ := hover
      omega
    · intro hnot
      by_contra hq
      exact hnot ⟨hwants, by omega, by omega⟩
  | takes worker now _ hqueued hready hstays => exact iff_of_true (by omega) id
  | returns worker _ hqueued hready hstays => exact iff_of_true (by omega) id
  | panics worker _ hqueued hready hstays =>
    -- One worker fewer stays, so now all depends on those that are ready.
    constructor
    · intro hq hover
      have hfew : p.load.ready < p.load.queued := hover
      omega
    · intro hnot
      have henough : p.load.queued ≤ p.load.ready := Nat.le_of_not_lt hnot
      omega
  | leaves _ ha hnone hleft => exact iff_of_true (by omega) (not_overlooks_of_isFree ha)
  | stands ha => exact iff_of_true hp (not_overlooks_of_isFree ha)

/-- A pool that is not provided for does not become so by itself. -/
theorem Happens.not_provided (h : Happens p a q) (ha : a.isOwn = true) (hp : ¬p.Provided) :
    ¬q.Provided := by
  unfold Provided at hp ⊢
  rw [h.fixed.1]
  have hshift := h.shift
  generalize q.load = l at hshift
  cases hshift with
  | hires | accepts | returns | panics => cases ha
  | takes worker now _ hqueued hready hstays => omega
  | leaves _ _ hnone _ => exact absurd (.inl (by omega)) hp
  | stands _ => exact hp

/-! ### Coming to rest -/

/-- Whether no worker can go on: each is gone, inside the handler, or parked with no wake-up on its
way. -/
def Quiescent (p : Pool T) : Prop :=
  ∀ w ∈ p.staff, w = .gone ∨ w.isRunning = true ∨ w.isParked = true ∧ ¬p.WakeupComes

/-- Whether no task waits, or all workers that there may be are inside the handler. -/
def Conserves (p : Pool T) : Prop :=
  p.queue = [] ∨
    p.workers = p.settings.maxWorkers ∧ ∀ w ∈ p.staff, w.isAlive = true → w.isRunning = true

/-- At rest, a queue with tasks in it means that all workers are inside the handler. -/
theorem Quiescent.isRunning (h : p.Quiescent) (hp : p.Heeded) (hqueue : p.queue ≠ []) :
    ∀ w ∈ p.staff, w = .gone ∨ w.isRunning = true := by
  intro w hw
  rcases h w hw with hgone | hrunning | ⟨hparked, hcalm⟩
  · exact .inl hgone
  · exact .inr hrunning
  · -- Nobody is to look at the queue, but the parked worker promises that somebody is.
    exfalso
    have hnone : ∀ v ∈ p.staff, ¬(v.comes = true ∨ v.holdsWakeup = true) := by
      intro v hv hup
      obtain ⟨hgone, hidle, hstanding⟩ := Worker.isUp hup
      rcases h v hv with heq | heq | ⟨heq, -⟩
      · exact hgone heq
      · rw [hidle] at heq
        cases heq
      · rw [hstanding] at heq
        cases heq
    have hcomes : p.staff.countP Worker.comes = 0 :=
      List.countP_eq_zero.mpr fun v hv hup => hnone v hv (.inl hup)
    have hholds : p.staff.countP Worker.holdsWakeup = 0 :=
      List.countP_eq_zero.mpr fun v hv hup => hnone v hv (.inr hup)
    have howed : p.owedWakeups = 0 := Nat.eq_zero_of_not_pos fun hpos => hcalm (.inl hpos)
    have hle := hp (List.countP_pos_iff.mpr ⟨w, hw, hparked⟩)
    rw [prompted, hcomes, hholds, howed] at hle
    exact hqueue (List.eq_nil_of_length_eq_zero (Nat.le_zero.mp hle))

theorem Quiescent.conserves_iff (h : p.Quiescent) (hstaffed : p.Staffed) (hp : p.Heeded) :
    p.Conserves ↔ p.Provided := by
  by_cases hqueue : p.queue = []
  · refine iff_of_true (.inl hqueue) (.inl ?_)
    show p.queue.length ≤ _
    rw [hqueue]
    exact Nat.zero_le _
  have hrunning := h.isRunning hp hqueue
  have hqueued : 0 < p.load.queued := List.length_pos_iff.mpr hqueue
  have hready : p.load.ready = 0 := by
    refine List.countP_eq_zero.mpr fun w hw hwready => ?_
    rcases hrunning w hw with rfl | hwrunning
    · cases hwready
    · rw [(Worker.isReady_of_isRunning hwrunning).1] at hwready
      cases hwready
  have hstaying : p.load.staying = p.workers := by
    rw [hstaffed.invariant.counted.workers_eq]
    refine List.countP_congr fun w hw => ?_
    rcases hrunning w hw with rfl | hwrunning
    · rfl
    · have hstays := (Worker.isReady_of_isRunning hwrunning).2
      exact iff_of_true hstays (Worker.isAlive_of_stays hstays)
  have hmax := hstaffed.workers_le
  constructor
  · rintro (hempty | ⟨hall, -⟩)
    · exact absurd hempty hqueue
    · exact .inr (by omega)
  · rintro (hfew | hall)
    · omega
    · refine .inr ⟨by omega, fun w hw halive => ?_⟩
      rcases hrunning w hw with rfl | hwrunning
      · cases halive
      · exact hwrunning

/-- An upper bound on how many steps a pool with tasks in its queue takes until it is at rest. -/
def stepsLeft (p : Pool T) : Nat :=
  (p.staff.map Worker.stepsLeft).sum + p.owedWakeups + p.closers.count .closing

section Sums

variable {α : Type} {l : List α} {i : Nat} {x : α}

theorem sum_map_set_add (f : α → Nat) (y : α) (h : l[i]? = some x) :
    ((l.set i y).map f).sum + f x = (l.map f).sum + f y := by
  induction l generalizing i with
  | nil => cases h
  | cons z rest ih =>
    cases i with
    | zero =>
      obtain rfl := Option.some.inj h
      simp only [List.set_cons_zero, List.map_cons, List.sum_cons]
      omega
    | succ i =>
      have hrest := ih h
      simp only [List.set_cons_succ, List.map_cons, List.sum_cons]
      omega

theorem sum_map_modify_le {f : α → Nat} {g : α → α} (h : ∀ x, f (g x) ≤ f x) (l : List α) (i : Nat) :
    ((l.modify i g).map f).sum ≤ (l.map f).sum := by
  cases hi : l[i]? with
  | none =>
    rw [List.modify_eq_set_getElem?, hi]
    exact Nat.le_refl _
  | some x =>
    rw [modify_eq_set g hi]
    have hset := sum_map_set_add f (g x) hi
    have hle := h x
    omega

end Sums

theorem stepsLeft_wakeOne (p : Pool T) : p.wakeOne.stepsLeft ≤ p.stepsLeft := by
  cases hline : p.line with
  | nil =>
    rw [wakeOne_of_nil hline]
    exact Nat.le_refl _
  | cons worker rest =>
    rw [wakeOne_of_cons hline]
    have hle := sum_map_modify_le (Worker.stepsLeft_hear .one) p.staff worker
    exact Nat.add_le_add_right (Nat.add_le_add_right hle _) _

theorem stepsLeft_wakeLine (p : Pool T) : p.wakeLine.stepsLeft ≤ p.stepsLeft := by
  have hle (line : List Nat) (staff : List (Worker T)) :
      ((line.foldl (fun staff worker => staff.modify worker (.hear .all)) staff).map
        Worker.stepsLeft).sum ≤ (staff.map Worker.stepsLeft).sum := by
    induction line generalizing staff with
    | nil => exact Nat.le_refl _
    | cons worker rest ih =>
      exact Nat.le_trans (ih _) (sum_map_modify_le (Worker.stepsLeft_hear .all) staff worker)
  exact Nat.add_le_add_right (Nat.add_le_add_right (hle p.line p.staff) _) _

theorem stepsLeft_lt_of_set {worker : Nat} {w v : Worker T} (hw : p.staff[worker]? = some w)
    (hstaff : q.staff = p.staff.set worker v) (howed : q.owedWakeups = p.owedWakeups)
    (hclosers : q.closers = p.closers) (hlt : v.stepsLeft < w.stepsLeft) :
    q.stepsLeft < p.stepsLeft := by
  have hset := sum_map_set_add Worker.stepsLeft v hw
  rw [stepsLeft, stepsLeft, hstaff, howed, hclosers]
  omega

/-- Whether a pool can take a step of its own that brings it nearer to its rest. -/
def Proceeds (p : Pool T) : Prop :=
  ∃ a q, PoolAction.isOwn a = true ∧ p.step a = some q ∧ q.stepsLeft < p.stepsLeft

/-- With tasks in the queue, a worker goes on until it is parked, inside the handler or gone. -/
theorem proceeds_of_worker {worker : Nat} {w : Worker T} (hqueue : p.queue ≠ [])
    (hw : p.staff[worker]? = some w) (hgone : w ≠ .gone) (hrunning : w.isRunning = false)
    (hparked : w.isParked = false) : p.Proceeds := by
  cases w with
  | gone => exact absurd rfl hgone
  | running task => cases hrunning
  | parked due => cases hparked
  | looking =>
    obtain ⟨task, rest, htasks⟩ := List.exists_cons_of_ne_nil hqueue
    refine ⟨.look worker 0, _, rfl, by rw [step, hw, htasks], ?_⟩
    exact stepsLeft_lt_of_set hw rfl rfl rfl Nat.zero_lt_one
  | woken =>
    refine ⟨.wake worker, _, rfl, by rw [step, hw], ?_⟩
    exact stepsLeft_lt_of_set hw rfl rfl rfl (Nat.lt_succ_self 1)
  | expired heard =>
    refine ⟨.resign worker, _, rfl, by rw [step, hw], ?_⟩
    exact stepsLeft_lt_of_set hw rfl rfl rfl (Nat.lt_succ_self 2)
  | exiting =>
    refine ⟨.strike worker, _, rfl, by rw [step, hw], ?_⟩
    exact stepsLeft_lt_of_set hw rfl rfl rfl Nat.zero_lt_one
  | withdrawing retires heard =>
    have hlt : (p.setWorker worker (if retires then .exiting else .looking)).stepsLeft <
        p.stepsLeft := by
      refine stepsLeft_lt_of_set hw rfl rfl rfl ?_
      cases retires <;> exact Nat.lt_succ_self 1
    -- A wake-up that is passed on makes nobody slower.
    rcases heard with _ | _ | _
    · refine ⟨.withdraw worker, _, rfl, by rw [step, hw], ?_⟩
      exact hlt
    · refine ⟨.withdraw worker, _, rfl, by rw [step, hw], ?_⟩
      exact Nat.lt_of_le_of_lt (stepsLeft_wakeOne _) hlt
    · refine ⟨.withdraw worker, _, rfl, by rw [step, hw], ?_⟩
      exact hlt

theorem proceeds_of_wakeupComes (hqueue : p.queue ≠ []) (h : p.WakeupComes) : p.Proceeds := by
  rcases h with howed | hholds | hclosing
  · refine ⟨.notify, _, rfl, if_pos howed, Nat.lt_of_le_of_lt (stepsLeft_wakeOne _) ?_⟩
    have howed' : p.owedWakeups - 1 < p.owedWakeups := Nat.sub_lt howed Nat.one_pos
    exact Nat.add_lt_add_right (Nat.add_lt_add_left howed' _) _
  · obtain ⟨w, hw, hwholds⟩ := List.any_eq_true.mp hholds
    obtain ⟨i, hi⟩ := List.mem_iff_getElem?.mp hw
    obtain ⟨hgone, hrunning, hparked⟩ := Worker.isUp (.inr hwholds)
    exact proceeds_of_worker hqueue hi hgone hrunning hparked
  · obtain ⟨i, hi⟩ := List.mem_iff_getElem?.mp hclosing
    refine ⟨.wakeAll i, _, rfl, by rw [step, hi], ?_⟩
    have hleft := stepsLeft_wakeLine p
    have hcloser := countP_set_add (· == .closing) .registering hi
    show (p.wakeLine.staff.map _).sum + p.owedWakeups + (p.closers.set i _).count .closing < _
    unfold stepsLeft at hleft ⊢
    change (p.closers.set i .registering).count .closing + 1 = p.closers.count .closing + 0 at hcloser
    change (p.wakeLine.staff.map _).sum + p.owedWakeups + p.closers.count .closing ≤ _ at hleft
    omega

theorem proceeds_of_not_quiescent (hqueue : p.queue ≠ []) (h : ¬p.Quiescent) : p.Proceeds := by
  simp only [Quiescent, not_forall, not_or] at h
  obtain ⟨w, hw, hgone, hrunning, hparked⟩ := h
  obtain ⟨i, hi⟩ := List.mem_iff_getElem?.mp hw
  rw [Bool.not_eq_true] at hrunning
  cases hwparked : w.isParked with
  | false => exact proceeds_of_worker hqueue hi hgone hrunning hwparked
  | true =>
    refine proceeds_of_wakeupComes hqueue ?_
    by_contra hcalm
    exact hparked ⟨hwparked, hcalm⟩

/-- A pool that is not provided for comes to rest that way by itself. -/
theorem exists_rest (h : ¬p.Provided) :
    ∃ as q, (∀ a ∈ as, PoolAction.isOwn a = true) ∧ p.run as = some q ∧ q.Quiescent ∧
      ¬q.Provided := by
  -- By induction on the steps that are left; each brings the pool nearer to its rest.
  induction hn : p.stepsLeft using Nat.strongRecOn generalizing p with
  | ind n ih =>
    by_cases hrest : p.Quiescent
    · exact ⟨[], p, fun _ ha => absurd ha List.not_mem_nil, rfl, hrest, h⟩
    have hqueue : p.queue ≠ [] := by
      intro hempty
      refine h (.inl ?_)
      show p.queue.length ≤ _
      rw [hempty]
      exact Nat.zero_le _
    obtain ⟨a, q, ha, hstep, hlt⟩ := proceeds_of_not_quiescent hqueue hrest
    have hq := (happens_of_step hstep).not_provided ha h
    obtain ⟨as, r, has, hrun, hr⟩ := ih q.stepsLeft (hn ▸ hlt) hq rfl
    refine ⟨a :: as, r, ?_, ?_, hr⟩
    · rintro b (_ | ⟨_, hb⟩)
      · exact ha
      · exact has b hb
    · rw [run, hstep]
      exact hrun

/-! ### Runs -/

variable {name : String} {s : PoolSettings} {hosted : Bool}

theorem Reachable.heeded (h : Reachable name s hosted p) : p.Heeded := by
  induction h with
  | start => exact .of_empty rfl
  | step a hp hstep ih => exact ih.happens hp.invariant (happens_of_step hstep)

theorem Reachable.run (h : Reachable name s hosted p) {as : List (PoolAction T)}
    (hrun : p.run as = some q) : Reachable name s hosted q := by
  obtain ⟨bs, hbs⟩ := reachable_iff_run.mp h
  refine reachable_iff_run.mpr ⟨bs ++ as, ?_⟩
  rw [run_append, hbs]
  exact hrun

/-- Actions of its own keep a pool provided for. -/
theorem provided_of_run (hstaffed : p.Staffed) (hp : p.Provided) {as : List (PoolAction T)}
    (has : ∀ a ∈ as, a.isOwn = true) (h : p.run as = some q) : q.Provided := by
  induction as generalizing p with
  | nil => exact Option.some.inj h ▸ hp
  | cons a rest ih =>
    obtain ⟨p', hstep, hrest⟩ := Option.bind_eq_some_iff.mp h
    have hhappens := happens_of_step hstep
    have ha := PoolAction.isFree_of_isOwn (has a List.mem_cons_self)
    refine ih (hstaffed.happens hhappens) ?_ (fun b hb => has b (List.mem_cons_of_mem a hb)) hrest
    exact (hhappens.provided_iff hstaffed hp).mpr (not_overlooks_of_isFree ha)

/-- **When a pool makes use of its workers.**  However a pool goes on by itself from a state of a
run, it comes to rest only with an empty queue or all workers that there may be inside the handler,
exactly if the run never leaves a task without a worker that could be had: it accepts none without
a new worker while each ready worker has a task to see to and not all workers stay, and no handler
panics while there are more tasks than ready workers. -/
theorem run_conserving_iff (name : String) (s : PoolSettings) (hosted : Bool)
    (as : List (PoolAction T)) (h : (ofSettings name s hosted).run as = some p) :
    (∀ n q bs r, (ofSettings name s hosted).run (as.take n) = some q →
        (∀ b ∈ bs, b.isOwn = true) → q.run bs = some r → r.Quiescent → r.Conserves) ↔
      ∀ n q a, (ofSettings name s hosted).run (as.take n) = some q → as[n]? = some a →
        ¬q.Overlooks a := by
  have hstaffed := staffed_ofSettings (T := T) name s hosted
  rw [← forall_run_iff (P := Provided) (fun hstep hp => Staffed.happens hp hstep)
    (fun hstep => hstep.provided_iff) hstaffed (.inl (Nat.zero_le _)) h]
  constructor
  · intro hall n q hq
    have hreachable := reachable_iff_run.mpr ⟨_, hq⟩
    by_contra hnot
    obtain ⟨bs, r, hbs, hr, hrest, hlost⟩ := exists_rest hnot
    have hreachable' := hreachable.run hr
    have hconserves := hall n q bs r hq hbs hr hrest
    exact hlost ((hrest.conserves_iff hreachable'.staffed hreachable'.heeded).mp hconserves)
  · intro hall n q bs r hq hbs hr hrest
    have hreachable := reachable_iff_run.mpr ⟨_, hq⟩
    have hreachable' := hreachable.run hr
    have hprovided := provided_of_run hreachable.staffed (hall n q hq) hbs hr
    exact (hrest.conserves_iff hreachable'.staffed hreachable'.heeded).mpr hprovided

/-- Two tasks bring two workers, and the third waits until one of them is done. -/
theorem run_conserving_two :
    let start : Pool Nat := ofSettings "two" { maxWorkers := 2 } true
    let as : List (PoolAction Nat) := [.submit 1, .submit 2, .look 0 0, .look 1 0, .submit 3, .notify]
    (∃ p, start.run as = some p ∧ p.Quiescent ∧ p.queue = [3]) ∧
      ∀ n q bs r, start.run (as.take n) = some q → (∀ b ∈ bs, b.isOwn = true) →
        q.run bs = some r → r.Quiescent → r.Conserves := by
  intro start as
  refine ⟨⟨_, rfl, ?_, rfl⟩, (run_conserving_iff _ _ _ as rfl).mpr ?_⟩
  · intro w hw
    right
    left
    rcases List.mem_cons.mp hw with rfl | hw
    · rfl
    · rw [List.mem_singleton.mp hw]
      rfl
  · intro n q a hq ha hover
    match n with
    | 0 | 1 =>
      -- Nobody is idle, so each task brings a worker.
      cases hq
      cases ha
      exact Bool.noConfusion hover.1
    | 4 =>
      -- Both workers stay.
      cases hq
      cases ha
      exact Nat.lt_irrefl 2 hover.2.2
    | 2 | 3 | 5 =>
      cases ha
      exact hover
    | n + 6 => cases ha

/-- A pool for two workers, with one that is idle when two tasks come: it takes the first, and the
second waits behind it although nobody else is there. -/
theorem burst_strands :
    ∃ p : Pool Nat, (ofSettings "two" { maxWorkers := 2 } true).run
        [.submit 1, .look 0 0, .finish 0, .look 0 0, .submit 2, .submit 3, .notify, .notify,
          .wake 0, .look 0 0] = some p ∧
      p.closed = false ∧ p.Quiescent ∧ p.queue = [3] ∧ p.workers = 1 ∧ ¬p.Conserves := by
  refine ⟨_, rfl, rfl, ?_, rfl, rfl, ?_⟩
  · intro w hw
    rw [List.mem_singleton.mp hw]
    exact .inr (.inl rfl)
  · rintro (hempty | ⟨hall, -⟩)
    · cases hempty
    · cases hall

end Pool
end MailPolicy
