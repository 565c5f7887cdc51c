/-
How long the queue of a pool can get.

A worker is ready if it is to look at the queue, of its own accord or once it is woken.  Each task
that is accepted with a new worker brings a worker that is ready, and a ready worker that takes a
task shortens the queue.  So the queue holds at most one task for each ready worker beyond its
limit, as long as no task is accepted without a new worker when there are that many already.
Nothing forbids this: an idle worker is counted as idle until it runs, however many tasks have come
for it, and while it is, no worker is added.

* `Pool.Shift` — what a step does to the length of the queue, to the ready workers and to those who
  stay;
* `Pool.Overfills` — a submit makes the queue longer than the ready workers account for;
* `Pool.length_queue_le_iff` — the queue is bounded by its limit and the ready workers in a run
  exactly if nothing overfills it; and **it is bounded by its limit and the number of workers
  whatever happens, exactly if there is one worker at most**.
-/
import MailPolicy.Proofs.Pool.Attendance
import MailPolicy.Proofs.Pool.Crew

namespace MailPolicy

variable {T : Type}

namespace Worker

/-- Whether a worker is to look at the queue, of its own accord or once it is woken. -/
def isReady : Worker T → Bool
  | looking | parked _ | woken | expired _ | withdrawing false _ => true
  | _ => false

/-- Whether a worker is there and not about to leave. -/
def stays : Worker T → Bool
  | running _ => true
  | w => w.isReady

theorem isReady_hear (how : Wakeup) (w : Worker T) : (w.hear how).isReady = w.isReady := by
  rcases w with _ | _ | _ | _ | (_ | _) | ⟨_ | _, _ | _⟩ | _ | _ <;> rfl

theorem stays_hear (how : Wakeup) (w : Worker T) : (w.hear how).stays = w.stays := by
  rcases w with _ | _ | _ | _ | (_ | _) | ⟨_ | _, _ | _⟩ | _ | _ <;> rfl

theorem stays_of_isReady {w : Worker T} (h : w.isReady = true) : w.stays = true := by
  cases w <;> first | rfl | exact h

theorem isAlive_of_stays {w : Worker T} (h : w.stays = true) : w.isAlive = true := by
  cases w <;> first | rfl | cases h

theorem isAlive_of_isIdle {w : Worker T} (h : w.isIdle = true) : w.isAlive = true := by
  cases w <;> first | rfl | cases h

end Worker

/-- The figures of a pool on which it depends whether its tasks are seen to. -/
structure Load where
  /-- How many tasks are queued. -/
  queued : Nat
  /-- How many workers are to look at the queue. -/
  ready : Nat
  /-- How many workers are there and not about to leave. -/
  staying : Nat

namespace Pool

variable {p q : Pool T} {a : PoolAction T} {name : String} {s : PoolSettings} {hosted : Bool}

def load (p : Pool T) : Load where
  queued := p.queue.length
  ready := p.staff.countP Worker.isReady
  staying := p.staff.countP Worker.stays

/-! ### What a step shifts -/

/-- What a step does to the figures of a pool. -/
inductive Shift (p : Pool T) : PoolAction T → Load → Prop
  | hires (task : T) (l : Load) : p.wantsWorker = true →
      l.queued = p.load.queued + 1 → l.ready = p.load.ready + 1 → l.staying = p.load.staying + 1 →
      Shift p (.submit task) l
  | accepts (task : T) (l : Load) : p.isSaturated = false → p.wantsWorker = false →
      l.queued = p.load.queued + 1 → l.ready = p.load.ready → l.staying = p.load.staying →
      Shift p (.submit task) l
  | takes (worker now : Nat) (l : Load) :
      l.queued + 1 = p.load.queued → l.ready + 1 = p.load.ready → l.staying = p.load.staying →
      Shift p (.look worker now) l
  | returns (worker : Nat) (l : Load) :
      l.queued = p.load.queued → l.ready = p.load.ready + 1 → l.staying = p.load.staying →
      Shift p (.finish worker) l
  | panics (worker : Nat) (l : Load) :
      l.queued = p.load.queued → l.ready = p.load.ready → l.staying + 1 = p.load.staying →
      Shift p (.panic worker) l
  | leaves {a : PoolAction T} (l : Load) : a.isFree = true → p.load.queued = 0 → l.queued = 0 →
      Shift p a l
  | stands {a : PoolAction T} : a.isFree = true → Shift p a p.load

theorem load_wakeOne (p : Pool T) : p.wakeOne.load = p.load := by
  rw [load, load, queue_wakeOne, countP_wakeOne Worker.isReady_hear,
    countP_wakeOne Worker.stays_hear]

theorem load_of_set {worker : Nat} {w v : Worker T} (hw : p.staff[worker]? = some w)
    (hstaff : q.staff = p.staff.set worker v) :
    q.load.ready + w.isReady.toNat = p.load.ready + v.isReady.toNat ∧
      q.load.staying + w.stays.toNat = p.load.staying + v.stays.toNat := by
  rw [load, hstaff]
  exact ⟨countP_set_add Worker.isReady v hw, countP_set_add Worker.stays v hw⟩

theorem load_eq_of_set {worker : Nat} {w v : Worker T} (hw : p.staff[worker]? = some w)
    (hstaff : q.staff = p.staff.set worker v) (hqueue : q.queue = p.queue)
    (hready : v.isReady = w.isReady) (hstays : v.stays = w.stays) : q.load = p.load := by
  obtain ⟨hr, hs⟩ := load_of_set hw hstaff
  rw [hready] at hr
  rw [hstays] at hs
  show Load.mk q.queue.length q.load.ready q.load.staying = p.load
  rw [hqueue, Nat.add_right_cancel hr, Nat.add_right_cancel hs]
  rfl

theorem Happens.shift (h : Happens p a q) : p.Shift a q.load := by
  -- Most workers go on without becoming more or less ready.
  have hstands {p' : Pool T} (ha : a.isFree = true) (heq : p'.load = p.load) :
      p.Shift a p'.load := by
    rw [heq]
    exact .stands ha
  cases h with
  | hire task _ _ hwants _ =>
    exact .hires task _ hwants (List.length_append ..) (List.countP_append ..)
      (List.countP_append ..)
  | accept task _ hroom hwants => exact .accepts task _ hroom hwants (List.length_append ..) rfl rfl
  | notify _ => exact hstands rfl (load_wakeOne _)
  | take worker now task rest hw hqueue =>
    obtain ⟨hready, hstaying⟩ := load_of_set (q :=
      { p.setWorker worker (.running task) with queue := rest, handed := p.handed ++ [task] }) hw rfl
    refine .takes worker now _ ?_ hready (Nat.add_right_cancel hstaying)
    show rest.length + 1 = p.queue.length
    rw [hqueue]
    rfl
  | finish worker task hw =>
    obtain ⟨hready, hstaying⟩ := load_of_set (q := p.setWorker worker .looking) hw rfl
    exact .returns worker _ rfl hready (Nat.add_right_cancel hstaying)
  | panic worker task hw =>
    obtain ⟨hready, hstaying⟩ := load_of_set (q := p.setWorker worker .exiting) hw rfl
    exact .panics worker _ rfl hready hstaying
  | leave worker now hw hempty _ =>
    have hnone : p.queue.length = 0 := congrArg List.length hempty
    exact .leaves _ rfl hnone hnone
  | parkWoken worker now hw _ _ _ => exact hstands rfl (load_eq_of_set hw rfl rfl rfl rfl)
  | park worker now due hw _ _ _ _ => exact hstands rfl (load_eq_of_set hw rfl rfl rfl rfl)
  | wake worker hw => exact hstands rfl (load_eq_of_set hw rfl rfl rfl rfl)
  | expire worker now due hw _ => exact hstands rfl (load_eq_of_set hw rfl rfl rfl rfl)
  | resign worker heard hw =>
    cases hqueue : p.queue with
    | nil =>
      -- It retires, and leaves nothing behind.
      have hnone : p.queue.length = 0 := congrArg List.length hqueue
      exact .leaves _ rfl hnone hnone
    | cons task rest => exact hstands rfl (load_eq_of_set hw rfl rfl rfl rfl)
  | withdraw worker retires hw =>
    cases retires <;> exact hstands rfl (load_eq_of_set hw rfl rfl rfl rfl)
  | passOn worker retires hw =>
    refine hstands rfl ((load_wakeOne _).trans ?_)
    cases retires <;> exact load_eq_of_set hw rfl rfl rfl rfl
  | withdrawWoken worker retires hw =>
    cases retires <;> exact hstands rfl (load_eq_of_set hw rfl rfl rfl rfl)
  | strike worker hw => exact hstands rfl (load_eq_of_set hw rfl rfl rfl rfl)
  | wakeAll closer _ =>
    refine hstands rfl ?_
    show Load.mk p.queue.length (p.wakeLine.staff.countP _) (p.wakeLine.staff.countP _) = p.load
    rw [countP_wakeLine Worker.isReady_hear, countP_wakeLine Worker.stays_hear]
    rfl
  | announce _ | close | register _ _ | readGone _ _ _ _ | readBusy _ _ _ _ | resume _ _ =>
    exact .stands rfl

/-! ### The size of a pool -/

theorem fixed_wakeOne (p : Pool T) :
    p.wakeOne.settings = p.settings ∧ p.wakeOne.hosted = p.hosted := by
  obtain ⟨_, _, _, h⟩ := exists_wakeOne_eq p
  rw [h]
  exact ⟨rfl, rfl⟩

theorem Happens.fixed (h : Happens p a q) : q.settings = p.settings ∧ q.hosted = p.hosted := by
  cases h with
  | notify _ | passOn _ _ _ => exact fixed_wakeOne _
  | _ => exact ⟨rfl, rfl⟩

theorem Happens.workers_le (h : Happens p a q) :
    q.workers ≤ p.workers ∨
      p.wantsWorker = true ∧ p.hosted = true ∧ q.workers = p.workers + 1 := by
  cases h with
  | hire task _ _ hwants hhosted => exact .inr ⟨hwants, hhosted, rfl⟩
  | notify _ | passOn _ _ _ => exact .inl (Nat.le_of_eq (workers_wakeOne _))
  | strike worker _ => exact .inl (Nat.sub_le p.workers 1)
  | _ => exact .inl (Nat.le_refl _)

theorem wantsWorker_iff :
    p.wantsWorker = true ↔ p.idle = 0 ∧ p.workers < p.settings.maxWorkers := by
  simp [wantsWorker]

theorem isSaturated_iff :
    p.isSaturated = true ↔
      p.settings.maxTasks ≤ p.queue.length ∧ p.settings.maxWorkers ≤ p.workers := by
  simp [isSaturated]

/-- Whether the counts of a pool are right and the number of workers is within its limit. -/
structure Staffed (p : Pool T) : Prop where
  invariant : p.Invariant
  workers_le : p.workers ≤ p.settings.maxWorkers

theorem Staffed.happens (hp : p.Staffed) (h : Happens p a q) : q.Staffed where
  invariant := hp.invariant.happens h
  workers_le := by
    rw [h.fixed.1]
    rcases h.workers_le with hle | ⟨hwants, -, heq⟩
    · exact Nat.le_trans hle hp.workers_le
    · rw [heq]
      exact (wantsWorker_iff.mp hwants).2

theorem staffed_ofSettings (name : String) (s : PoolSettings) (hosted : Bool) :
    (ofSettings name s hosted : Pool T).Staffed :=
  ⟨invariant_ofSettings name s hosted, Nat.zero_le _⟩

theorem Reachable.staffed (h : Reachable name s hosted p) : p.Staffed :=
  h.rec_happens (staffed_ofSettings name s hosted) fun _ _ _ hp => hp.happens

theorem Reachable.fixed (h : Reachable name s hosted p) :
    p.settings = (ofSettings name s hosted : Pool T).settings ∧ p.hosted = hosted := by
  induction h with
  | start => exact ⟨rfl, rfl⟩
  | step a _ hstep ih =>
    have hfixed := (happens_of_step hstep).fixed
    rwa [hfixed.1, hfixed.2]

theorem Staffed.staying_le (hp : p.Staffed) : p.load.staying ≤ p.workers := by
  rw [hp.invariant.counted.workers_eq]
  exact List.countP_mono_left fun _ _ => Worker.isAlive_of_stays

theorem Staffed.ready_le (hp : p.Staffed) : p.load.ready ≤ p.settings.maxWorkers := by
  have hstays : p.load.ready ≤ p.load.staying :=
    List.countP_mono_left fun _ _ => Worker.stays_of_isReady
  have hthere := hp.staying_le
  have hmax := hp.workers_le
  omega

theorem Staffed.idle_le (hp : p.Staffed) : p.idle ≤ p.workers := by
  rw [hp.invariant.counted.workers_eq, hp.invariant.counted.idle_eq]
  exact List.countP_mono_left fun _ _ => Worker.isAlive_of_isIdle

/-! ### The length of the queue -/

/-- Whether the queue holds at most one task for each ready worker beyond its limit. -/
def Afforded (p : Pool T) : Prop := p.queue.length ≤ p.settings.maxTasks + p.load.ready

/-- Whether an action makes the queue longer than that: a task is accepted without a new worker
when the queue holds one task for each ready worker beyond its limit. -/
def Overfills (p : Pool T) : PoolAction T → Prop
  | .submit _ => p.wantsWorker = false ∧ p.settings.maxTasks + p.load.ready ≤ p.queue.length
  | _ => False

/-- A step keeps the queue within what the ready workers account for, or overfills it. -/
theorem Happens.afforded_iff (h : Happens p a q) (hp : p.Afforded) :
    q.Afforded ↔ ¬p.Overfills a := by
  have hp' : p.load.queued ≤ p.settings.maxTasks + p.load.ready := hp
  show q.load.queued ≤ q.settings.maxTasks + q.load.ready ↔ _
  rw [h.fixed.1]
  have hshift := h.shift
  generalize q.load = l at hshift
  -- Whatever is not a submit overfills nothing.
  have hfree {b : PoolAction T} (hb : b.isFree = true) : ¬p.Overfills b := by
    intro hover
    cases b with
    | submit task => cases hb
    | _ => exact hover
  cases hshift with
  | hires task _ hwants hqueued hready _ =>
    refine iff_of_true (by omega) fun hover => ?_
    rw [hover.1] at hwants
    cases hwants
  | accepts task _ _ hwants hqueued hready _ =>
    constructor
    · intro hq hover
      have hfull : p.settings.maxTasks + p.load.ready ≤ p.load.queued := hover.2
      omega
    · intro hnot
      have hroom : p.load.queued < p.settings.maxTasks + p.load.ready :=
        Nat.lt_of_not_le fun hfull => hnot ⟨hwants, hfull⟩
      omega
  | takes worker now _ hqueued hready _ => exact iff_of_true (by omega) id
  | returns worker _ hqueued hready _ => exact iff_of_true (by omega) id
  | panics worker _ hqueued hready _ => exact iff_of_true (by omega) id
  | leaves _ ha _ hleft => exact iff_of_true (by omega) (hfree ha)
  | stands ha => exact iff_of_true hp' (hfree ha)

theorem submit_of_not_wantsWorker (hopen : p.closed = false) (hroom : p.isSaturated = false)
    (hwants : p.wantsWorker = false) (task : T) :
    p.submit task = .ok { p.enqueue task with owedWakeups := p.owedWakeups + 1 } := by
  simp [submit, hopen, hroom, hwants]

theorem not_isSaturated_of_lt (h : p.workers < p.settings.maxWorkers) : p.isSaturated = false := by
  rw [Bool.eq_false_iff, Ne, isSaturated_iff]
  omega

/-- A task that comes to a full queue is accepted without a new worker exactly if somebody counts
as idle and the workers are not all there. -/
theorem exists_submit_iff (hopen : p.closed = false)
    (hfull : p.settings.maxTasks ≤ p.queue.length) (task : T) :
    (∃ q, p.submit task = .ok q ∧ q.workers = p.workers) ↔
      0 < p.idle ∧ p.workers < p.settings.maxWorkers := by
  constructor
  · rintro ⟨q, hq, hsame⟩
    have hstep := happens_of_submit hq
    cases hstep with
    | hire _ _ _ _ _ => exact absurd hsame (Nat.succ_ne_self _)
    | accept _ _ hroom hwants =>
      have hless : p.workers < p.settings.maxWorkers := by
        by_contra hall
        have hsat := isSaturated_iff.mpr ⟨hfull, Nat.le_of_not_lt hall⟩
        rw [hroom] at hsat
        cases hsat
      refine ⟨Nat.pos_of_ne_zero fun hidle => ?_, hless⟩
      have hwanted := wantsWorker_iff.mpr ⟨hidle, hless⟩
      rw [hwants] at hwanted
      cases hwanted
  · rintro ⟨hidle, hless⟩
    have hwants : p.wantsWorker = false := by
      rw [Bool.eq_false_iff, Ne, wantsWorker_iff]
      omega
    exact ⟨_, submit_of_not_wantsWorker hopen (not_isSaturated_of_lt hless) hwants task, rfl⟩

/-- With one worker at most nothing overfills the queue. -/
theorem Staffed.not_overfills (hp : p.Staffed) (hone : p.settings.maxWorkers ≤ 1)
    (h : Happens p a q) : ¬p.Overfills a := by
  intro hover
  cases h with
  | hire task _ _ hwants _ =>
    rw [hover.1] at hwants
    cases hwants
  | accept task hopen hroom hwants =>
    obtain ⟨-, hfull⟩ := hover
    -- Whoever is idle is the one worker that there may be.
    have haccepted : ∃ q, p.submit task = .ok q ∧ q.workers = p.workers :=
      ⟨_, submit_of_not_wantsWorker hopen hroom hwants task, rfl⟩
    have hidle := (exists_submit_iff hopen (by omega) task).mp haccepted
    have hle := hp.idle_le
    omega
  | _ => exact hover

theorem Reachable.afforded (h : Reachable name s hosted p) (hone : s.maxWorkers ≤ 1) :
    p.Afforded := by
  induction h with
  | start => exact Nat.zero_le _
  | @step p q a hp hstep ih =>
    have hhappens := happens_of_step hstep
    have hmax : p.settings.maxWorkers ≤ 1 := by
      rw [hp.fixed.1]
      exact Nat.max_le.mpr ⟨hone, Nat.le_refl 1⟩
    exact (hhappens.afforded_iff ih).mpr (hp.staffed.not_overfills hmax hhappens)

/-- Without anything to run workers on no task is ever accepted. -/
theorem Reachable.accepted_eq_nil (h : Reachable name s false p) :
    p.workers = 0 ∧ p.accepted = [] := by
  induction h with
  | start => exact ⟨rfl, rfl⟩
  | @step p q a hp hstep ih =>
    obtain ⟨hworkers, haccepted⟩ := ih
    have hhappens := happens_of_step hstep
    have hhosted := hp.fixed.2
    constructor
    · rcases hhappens.workers_le with hle | ⟨-, htrue, -⟩
      · omega
      · rw [hhosted] at htrue
        cases htrue
    · rcases hhappens.accepted_eq with heq | ⟨task, rfl, -⟩
      · exact heq.trans haccepted
      · cases hhappens with
        | hire _ _ _ _ htrue =>
          rw [hhosted] at htrue
          cases htrue
        | accept _ _ _ hwants =>
          -- Nobody is idle and nobody is there, so a worker would be wanted.
          have hmax : 0 < p.settings.maxWorkers := by
            rw [hp.fixed.1]
            exact Nat.le_max_right s.maxWorkers 1
          have hidle := hp.staffed.idle_le
          have hwanted : p.wantsWorker = true := wantsWorker_iff.mpr ⟨by omega, by omega⟩
          rw [hwants] at hwanted
          cases hwanted

/-- While somebody counts as idle and the workers are not all there, tasks can come without end. -/
theorem Reachable.exists_longer (h : Reachable name s hosted p) (hopen : p.closed = false)
    (hidle : 0 < p.idle) (hless : p.workers < p.settings.maxWorkers) (task : T) (n : Nat) :
    ∃ q : Pool T, Reachable name s hosted q ∧ q.queue.length = p.queue.length + n := by
  induction n generalizing p with
  | zero => exact ⟨p, h, rfl⟩
  | succ n ih =>
    have hwants : p.wantsWorker = false := by
      rw [Bool.eq_false_iff, Ne, wantsWorker_iff]
      omega
    have hsubmit := submit_of_not_wantsWorker hopen (not_isSaturated_of_lt hless) hwants task
    -- The task changes none of what let it in.
    obtain ⟨q, hq, hlength⟩ := ih (reachable_submit h hsubmit) hopen hidle hless
    refine ⟨q, hq, hlength.trans ?_⟩
    show (p.queue ++ [task]).length + n = _
    rw [List.length_append, List.length_singleton]
    omega

/-- A pool for more than one worker can have one that is idle. -/
theorem exists_idle (name : String) {s : PoolSettings} (hmax : 1 < s.maxWorkers) (task : T) :
    ∃ p : Pool T, Reachable name s true p ∧ p.closed = false ∧ 0 < p.idle ∧
      p.workers < p.settings.maxWorkers := by
  have hhire : (ofSettings name s true).submit task = .ok
      { (ofSettings name s true).enqueue task with workers := 1, staff := [.looking] } := by
    have hroom : 0 < max s.maxWorkers 1 := Nat.lt_of_lt_of_le Nat.one_pos (Nat.le_max_right _ _)
    simp [submit, isSaturated, wantsWorker, ofSettings, enqueue, hroom]
  have hreachable := reachable_submit .start hhire
  have hparked := hreachable.attemptAll [.look 0 0, .finish 0, .look 0 0]
  exact ⟨_, hparked, rfl, Nat.one_pos, Nat.lt_of_lt_of_le hmax (Nat.le_max_left _ _)⟩

/-- **How far the queue of a pool is bounded.**  In a run from the start the queue holds at most
one task for each ready worker beyond its limit, and so at most as many beyond it as there may be
workers, as long as nothing overfills it, and no longer.  A full queue takes a task without a new
worker exactly while somebody counts as idle and the workers are not all there.  So the bound holds
whatever happens exactly for the pools that have one worker at most. -/
theorem length_queue_le_iff (name : String) (s : PoolSettings) (hosted : Bool) (task : T) :
    (∀ (as : List (PoolAction T)) (p : Pool T), (ofSettings name s hosted).run as = some p →
      ((∀ n q, (ofSettings name s hosted).run (as.take n) = some q →
          q.queue.length ≤ q.settings.maxTasks + q.load.ready) ↔
        ∀ n q a, (ofSettings name s hosted).run (as.take n) = some q → as[n]? = some a →
          ¬q.Overfills a)) ∧
    (∀ p : Pool T, Reachable name s hosted p → p.load.ready ≤ p.settings.maxWorkers ∧
      (p.closed = false → p.settings.maxTasks ≤ p.queue.length →
        ((∃ q, p.submit task = .ok q ∧ q.workers = p.workers) ↔
          0 < p.idle ∧ p.workers < p.settings.maxWorkers))) ∧
    ((∀ p : Pool T, Reachable name s hosted p →
        p.queue.length ≤ max s.maxTasks 1 + max s.maxWorkers 1) ↔
      hosted = false ∨ s.maxWorkers ≤ 1) := by
  have hruns (as : List (PoolAction T)) (p : Pool T)
      (h : (ofSettings name s hosted).run as = some p) :=
    forall_run_iff (P := Afforded) (fun hstep hp => Staffed.happens hp hstep)
      (fun hstep _ hp => hstep.afforded_iff hp) (staffed_ofSettings name s hosted)
      (Nat.zero_le _) h
  refine ⟨hruns, fun p hp => ⟨hp.staffed.ready_le, fun hopen hfull => ?_⟩, ?_, ?_⟩
  · exact exists_submit_iff hopen hfull task
  · intro hbound
    by_contra hnot
    obtain ⟨hhosted, hmax⟩ := not_or.mp hnot
    obtain rfl := Bool.not_eq_false _ ▸ hhosted
    obtain ⟨p, hp, hopen, hidle, hless⟩ := exists_idle name (Nat.lt_of_not_le hmax) task
    obtain ⟨q, hq, hlength⟩ := hp.exists_longer hopen hidle hless task
      (max s.maxTasks 1 + max s.maxWorkers 1 + 1)
    have hle := hbound q hq
    omega
  · rintro (rfl | hone) p hp
    · have hnone := hp.accepted_eq_nil.2
      have haccounted := hp.staffed.invariant.accounted
      rw [Accounted, hnone] at haccounted
      obtain ⟨-, hempty⟩ := List.append_eq_nil_iff.mp haccounted.symm
      rw [hempty]
      exact Nat.zero_le _
    · have hready := hp.staffed.ready_le
      have hlength : p.queue.length ≤ p.settings.maxTasks + p.load.ready := hp.afforded hone
      rw [hp.fixed.1] at hready hlength
      exact Nat.le_trans hlength (Nat.add_le_add_left hready _)

/-- Two workers are hired for two tasks, and one of them takes the first; the full queue takes no
third task.  In a pool for one worker and two queued tasks the queue never gets longer than three. -/
theorem length_queue_le_two :
    let start : Pool Nat := ofSettings "two" { maxWorkers := 2, maxTasks := 1 } true
    let as : List (PoolAction Nat) := [.submit 1, .submit 2, .look 0 0]
    (∃ p, start.run as = some p ∧ p.queue = [2] ∧
      (∀ n q, start.run (as.take n) = some q →
        q.queue.length ≤ q.settings.maxTasks + q.load.ready) ∧
      ¬∃ q, p.submit 3 = .ok q ∧ q.workers = p.workers) ∧
    ∀ p : Pool Nat, Reachable "one" { maxWorkers := 1, maxTasks := 2 } true p →
      p.queue.length ≤ 2 + 1 := by
  intro start as
  obtain ⟨hruns, hstates, -⟩ :=
    length_queue_le_iff "two" { maxWorkers := 2, maxTasks := 1 } true (3 : Nat)
  obtain ⟨-, -, hone⟩ := length_queue_le_iff "one" { maxWorkers := 1, maxTasks := 2 } true (3 : Nat)
  refine ⟨⟨_, rfl, rfl, (hruns as _ rfl).mpr ?_, ?_⟩, hone.mpr (.inr (Nat.le_refl 1))⟩
  · intro n q a hq ha hover
    match n with
    | 0 | 1 =>
      -- Nobody is idle and not all workers are there, so each task brings one.
      cases hq
      cases ha
      exact Bool.noConfusion hover.1
    | 2 =>
      cases ha
      exact hover
    | n + 3 => cases ha
  · have hreachable : Reachable "two" { maxWorkers := 2, maxTasks := 1 } true _ :=
      reachable_iff_run.mpr ⟨as, rfl⟩
    rw [(hstates _ hreachable).2 rfl (Nat.le_refl 1)]
    exact fun h => Nat.lt_irrefl 0 h.1

/-- A pool for two workers and one queued task, with one worker that is idle: four tasks that come
before it runs are all accepted, and no worker is added. -/
theorem queue_outgrows :
    ∃ p : Pool Nat, (ofSettings "two" { maxWorkers := 2, maxTasks := 1 } true).run
        [.submit 1, .look 0 0, .finish 0, .look 0 0, .submit 2, .submit 3, .submit 4, .submit 5] =
          some p ∧
      p.queue = [2, 3, 4, 5] ∧ p.workers = 1 ∧
        p.settings.maxTasks + p.settings.maxWorkers < p.queue.length :=
  ⟨_, rfl, rfl, rfl, Nat.lt_succ_self 3⟩

end Pool
end MailPolicy
