/-
What holds of every reachable pool.

The counters agree with the workers there are, the line holds exactly the workers that wait for a
wake-up, and the tasks that were accepted are those handed over followed by those in the queue.

* `Pool.Counted` — the counts of workers and of idle workers are exact;
* `Pool.Lined` — who is in line, and that a permit is left only while nobody is;
* `Pool.Accounted` — where the accepted tasks are;
* `Pool.Happens.running` — where the tasks come from that workers run;
* `Pool.Busy` — workers run tasks that were handed over;
* `Pool.Once` — no task is run by more workers than it was handed over;
* `Pool.Finished` — whoever has seen the end of a shutdown saw a closed pool without workers;
* `Pool.Reachable.invariant` — all of this holds of whatever can come about.
-/
import Mathlib.Data.List.Nodup
import MailPolicy.Proofs.Pool.Happens

namespace MailPolicy

variable {T : Type}

/-! ### Lists of workers -/

section Lists

variable {α : Type} {l : List α} {i : Nat} {x y : α} {f : α → Bool}

/-- The count of elements with a property when one element is exchanged. -/
theorem countP_set_add (f : α → Bool) (y : α) (h : l[i]? = some x) :
    (l.set i y).countP f + (f x).toNat = l.countP f + (f y).toNat := by
  induction l generalizing i with
  | nil => cases h
  | cons z rest ih =>
    cases i with
    | zero =>
      obtain rfl := Option.some.inj h
      rw [List.set_cons_zero, List.countP_cons, List.countP_cons]
      cases f z <;> cases f y <;> simp
    | succ i =>
      have hrest := ih h
      rw [List.set_cons_succ, List.countP_cons, List.countP_cons]
      omega

theorem countP_modify {g : α → α} (h : ∀ x, f (g x) = f x) (l : List α) (i : Nat) :
    (l.modify i g).countP f = l.countP f := by
  induction l generalizing i with
  | nil => cases i <;> rfl
  | cons z rest ih =>
    cases i with
    | zero => rw [List.modify_zero_cons, List.countP_cons, List.countP_cons, h]
    | succ i => rw [List.modify_succ_cons, List.countP_cons, List.countP_cons, ih]

theorem toNat_le_countP (f : α → Bool) (h : l[i]? = some x) : (f x).toNat ≤ l.countP f := by
  cases hx : f x with
  | false => exact Nat.zero_le _
  | true => exact List.countP_pos_iff.mpr ⟨x, List.mem_of_getElem? h, hx⟩

end Lists

/-! ### Workers -/

namespace Worker

/-- Whether a worker has not been struck off. -/
def isAlive : Worker T → Bool
  | gone => false
  | _ => true

/-- Whether a worker is counted as idle. -/
def isIdle : Worker T → Bool
  | parked _ | woken | expired _ => true
  | _ => false

/-- Whether a worker is in line for a wake-up. -/
def isInLine : Worker T → Bool
  | parked _ | expired none | withdrawing _ none => true
  | _ => false

/-- Whether a worker is inside the handler. -/
def isRunning : Worker T → Bool
  | running _ => true
  | _ => false

/-- Whether a worker runs a task of some sort. -/
def runs (f : T → Bool) : Worker T → Bool
  | running task => f task
  | _ => false

theorem isAlive_hear (how : Wakeup) (w : Worker T) : (w.hear how).isAlive = w.isAlive := by
  rcases w with _ | _ | _ | _ | (_ | _) | ⟨_, _ | _⟩ | _ | _ <;> rfl

theorem isIdle_hear (how : Wakeup) (w : Worker T) : (w.hear how).isIdle = w.isIdle := by
  rcases w with _ | _ | _ | _ | (_ | _) | ⟨_, _ | _⟩ | _ | _ <;> rfl

theorem runs_hear (f : T → Bool) (how : Wakeup) (w : Worker T) :
    (w.hear how).runs f = w.runs f := by
  rcases w with _ | _ | _ | _ | (_ | _) | ⟨_, _ | _⟩ | _ | _ <;> rfl

theorem runs_eq_false {w : Worker T} (hw : w.isRunning = false) (f : T → Bool) :
    w.runs f = false := by
  cases w with
  | running task => cases hw
  | _ => rfl

/-- A worker that was woken is not in line. -/
theorem isInLine_hear (how : Wakeup) (w : Worker T) : (w.hear how).isInLine = false := by
  rcases w with _ | _ | _ | _ | (_ | _) | ⟨_, _ | _⟩ | _ | _ <;> rfl

end Worker

namespace Pool

variable {p q : Pool T} {a : PoolAction T}

/-! ### Waking one -/

theorem wakeOne_of_nil (h : p.line = []) : p.wakeOne = { p with permit := true } := by
  unfold wakeOne
  rw [h]

theorem wakeOne_of_cons {worker : Nat} {rest : List Nat} (h : p.line = worker :: rest) :
    p.wakeOne = { p with line := rest, staff := p.staff.modify worker (.hear .one) } := by
  unfold wakeOne
  rw [h]

/-- Waking one concerns the line, the permit and the workers only. -/
theorem exists_wakeOne_eq (p : Pool T) : ∃ line permit staff,
    p.wakeOne = { p with line := line, permit := permit, staff := staff } := by
  unfold wakeOne
  split
  · exact ⟨_, _, _, rfl⟩
  · exact ⟨_, _, _, rfl⟩

@[simp] theorem workers_wakeOne (p : Pool T) : p.wakeOne.workers = p.workers := by
  obtain ⟨_, _, _, h⟩ := exists_wakeOne_eq p
  rw [h]

@[simp] theorem idle_wakeOne (p : Pool T) : p.wakeOne.idle = p.idle := by
  obtain ⟨_, _, _, h⟩ := exists_wakeOne_eq p
  rw [h]

@[simp] theorem queue_wakeOne (p : Pool T) : p.wakeOne.queue = p.queue := by
  obtain ⟨_, _, _, h⟩ := exists_wakeOne_eq p
  rw [h]

@[simp] theorem accepted_wakeOne (p : Pool T) : p.wakeOne.accepted = p.accepted := by
  obtain ⟨_, _, _, h⟩ := exists_wakeOne_eq p
  rw [h]

@[simp] theorem handed_wakeOne (p : Pool T) : p.wakeOne.handed = p.handed := by
  obtain ⟨_, _, _, h⟩ := exists_wakeOne_eq p
  rw [h]

@[simp] theorem closed_wakeOne (p : Pool T) : p.wakeOne.closed = p.closed := by
  obtain ⟨_, _, _, h⟩ := exists_wakeOne_eq p
  rw [h]

@[simp] theorem closers_wakeOne (p : Pool T) : p.wakeOne.closers = p.closers := by
  obtain ⟨_, _, _, h⟩ := exists_wakeOne_eq p
  rw [h]

/-! ### Counts -/

/-- Whether the counts of workers and of idle workers are exact. -/
structure Counted (p : Pool T) : Prop where
  workers_eq : p.workers = p.staff.countP Worker.isAlive
  idle_eq : p.idle = p.staff.countP Worker.isIdle

theorem countP_wakeOne {f : Worker T → Bool} (h : ∀ how w, f (w.hear how) = f w) (p : Pool T) :
    p.wakeOne.staff.countP f = p.staff.countP f := by
  unfold wakeOne
  split
  · rfl
  · exact countP_modify (h .one) _ _

theorem countP_wakeLine {f : Worker T → Bool} (h : ∀ how w, f (w.hear how) = f w) (p : Pool T) :
    p.wakeLine.staff.countP f = p.staff.countP f := by
  unfold wakeLine
  dsimp only
  generalize p.line = line
  induction line generalizing p with
  | nil => rfl
  | cons worker rest ih =>
    rw [List.foldl_cons]
    have hone := ih { p with staff := p.staff.modify worker (.hear .all) }
    exact hone.trans (countP_modify (h .all) _ _)

theorem Counted.wakeOne (h : p.Counted) : p.wakeOne.Counted where
  workers_eq := by rw [workers_wakeOne, countP_wakeOne Worker.isAlive_hear, h.workers_eq]
  idle_eq := by rw [idle_wakeOne, countP_wakeOne Worker.isIdle_hear, h.idle_eq]

/-- The counts when one worker changes and the counters are adapted to it. -/
theorem Counted.set (h : p.Counted) {worker : Nat} {w : Worker T} (v : Worker T)
    (hw : p.staff[worker]? = some w)
    (hstaff : q.staff = p.staff.set worker v)
    (hworkers : q.workers + w.isAlive.toNat = p.workers + v.isAlive.toNat)
    (hidle : q.idle + w.isIdle.toNat = p.idle + v.isIdle.toNat) : q.Counted where
  workers_eq := by
    have hset := countP_set_add Worker.isAlive v hw
    rw [← hstaff, ← h.workers_eq] at hset
    omega
  idle_eq := by
    have hset := countP_set_add Worker.isIdle v hw
    rw [← hstaff, ← h.idle_eq] at hset
    omega

theorem counted_ofSettings (name : String) (s : PoolSettings) (hosted : Bool) :
    (ofSettings name s hosted : Pool T).Counted := ⟨rfl, rfl⟩

theorem Counted.happens (hp : p.Counted) (h : Happens p a q) : q.Counted := by
  -- A counter is lowered only for a worker that it counts.
  have hidle {worker : Nat} {w : Worker T} (hw : p.staff[worker]? = some w) :
    w.isIdle.toNat ≤ p.idle :=
    hp.idle_eq ▸ toNat_le_countP Worker.isIdle hw
  have halive {worker : Nat} {w : Worker T} (hw : p.staff[worker]? = some w) :
      w.isAlive.toNat ≤ p.workers := hp.workers_eq ▸ toNat_le_countP Worker.isAlive hw
  cases h with
  | hire task _ _ _ =>
    constructor
    · show p.workers + 1 = (p.staff ++ [Worker.looking]).countP Worker.isAlive
      rw [List.countP_append, ← hp.workers_eq]
      rfl
    · show p.idle = (p.staff ++ [Worker.looking]).countP Worker.isIdle
      rw [List.countP_append, ← hp.idle_eq]
      rfl
  | accept task _ _ _ => exact ⟨hp.workers_eq, hp.idle_eq⟩
  | notify _ => exact Counted.wakeOne ⟨hp.workers_eq, hp.idle_eq⟩
  | take worker now task rest hw _ => exact hp.set _ hw rfl rfl rfl
  | leave worker now hw _ _ => exact hp.set _ hw rfl rfl rfl
  | parkWoken worker now hw _ _ _ => exact hp.set _ hw rfl rfl rfl
  | park worker now due hw _ _ _ _ => exact hp.set _ hw rfl rfl rfl
  | finish worker task hw => exact hp.set _ hw rfl rfl rfl
  | panic worker task hw => exact hp.set _ hw rfl rfl rfl
  | wake worker hw => exact hp.set _ hw rfl rfl (Nat.sub_add_cancel (hidle hw))
  | expire worker now due hw _ => exact hp.set _ hw rfl rfl rfl
  | resign worker heard hw => exact hp.set _ hw rfl rfl (Nat.sub_add_cancel (hidle hw))
  | withdraw worker retires hw => cases retires <;> exact hp.set _ hw rfl rfl rfl
  | passOn worker retires hw =>
    have hset : (p.setWorker worker (if retires then .exiting else .looking)).Counted := by
      cases retires <;> exact hp.set _ hw rfl rfl rfl
    exact hset.wakeOne
  | withdrawWoken worker retires hw => cases retires <;> exact hp.set _ hw rfl rfl rfl
  | strike worker hw => exact hp.set _ hw rfl (Nat.sub_add_cancel (halive hw)) rfl
  | wakeAll closer _ =>
    constructor
    · exact hp.workers_eq.trans (countP_wakeLine Worker.isAlive_hear p).symm
    · exact hp.idle_eq.trans (countP_wakeLine Worker.isIdle_hear p).symm
  | announce _ | close | register _ _ | readGone _ _ _ _ | readBusy _ _ _ _ | resume _ _ =>
    exact ⟨hp.workers_eq, hp.idle_eq⟩

/-! ### The line -/

/-- Whether the worker with a number is in line for a wake-up. -/
def standsInLine (staff : List (Worker T)) (worker : Nat) : Bool :=
  staff[worker]?.any Worker.isInLine

theorem standsInLine_iff {staff : List (Worker T)} {worker : Nat} :
    standsInLine staff worker = true ↔ ∃ w, staff[worker]? = some w ∧ w.isInLine = true := by
  unfold standsInLine
  cases staff[worker]? with
  | none =>
    constructor
    · intro h
      cases h
    · rintro ⟨_, h, -⟩
      cases h
  | some w => exact ⟨fun h => ⟨w, rfl, h⟩, fun ⟨_, hw, h⟩ => Option.some.inj hw ▸ h⟩

theorem standsInLine_set {staff : List (Worker T)} {worker : Nat} {w : Worker T} (v : Worker T)
    (hw : staff[worker]? = some w) (i : Nat) :
    standsInLine (staff.set worker v) i =
      if i = worker then v.isInLine else standsInLine staff i := by
  obtain ⟨hlt, -⟩ := List.getElem?_eq_some_iff.mp hw
  unfold standsInLine
  by_cases hi : i = worker
  · rw [if_pos hi, hi, List.getElem?_set_self hlt, Option.any_some]
  · rw [if_neg hi, List.getElem?_set_ne (Ne.symm hi)]

theorem standsInLine_hear (how : Wakeup) (staff : List (Worker T)) (worker i : Nat) :
    standsInLine (staff.modify worker (.hear how)) i =
      if i = worker then false else standsInLine staff i := by
  unfold standsInLine
  rw [List.getElem?_modify]
  cases staff[i]? with
  | none => rw [Option.map_eq_map, Option.map_none, Option.any_none, ite_self]
  | some w =>
    rw [Option.map_eq_map, Option.map_some, Option.any_some]
    by_cases hi : i = worker
    · rw [if_pos hi, if_pos hi.symm]
      exact Worker.isInLine_hear how w
    · rw [if_neg hi, if_neg (Ne.symm hi), Option.any_some]

theorem standsInLine_foldl_hear (how : Wakeup) (line : List Nat) (staff : List (Worker T))
    (i : Nat) :
    standsInLine (line.foldl (fun staff worker => staff.modify worker (.hear how)) staff) i =
      if i ∈ line then false else standsInLine staff i := by
  induction line generalizing staff with
  | nil => rw [List.foldl_nil, if_neg List.not_mem_nil]
  | cons worker rest ih =>
    rw [List.foldl_cons, ih, standsInLine_hear]
    by_cases hi : i = worker
    · rw [if_pos hi, if_pos (List.mem_cons.mpr (.inl hi)), ite_self]
    · by_cases hrest : i ∈ rest
      · rw [if_pos hrest, if_pos (List.mem_cons_of_mem _ hrest)]
      · rw [if_neg hrest, if_neg hi, if_neg fun h => (List.mem_cons.mp h).elim hi hrest]

/-- Whether the line holds exactly those who wait for a wake-up, and nobody while there is a
permit. -/
structure Lined (p : Pool T) : Prop where
  nodup : p.line.Nodup
  mem_line_iff : ∀ i, i ∈ p.line ↔ standsInLine p.staff i = true
  line_of_permit : p.permit = true → p.line = []

theorem lined_ofSettings (name : String) (s : PoolSettings) (hosted : Bool) :
    (ofSettings name s hosted : Pool T).Lined :=
  ⟨List.nodup_nil, fun i => by simp [ofSettings, standsInLine], fun _ => rfl⟩

theorem Lined.wakeOne (h : p.Lined) : p.wakeOne.Lined := by
  cases hline : p.line with
  | nil =>
    rw [wakeOne_of_nil hline]
    exact ⟨h.nodup, h.mem_line_iff, fun _ => hline⟩
  | cons worker rest =>
    rw [wakeOne_of_cons hline]
    have hnodup := h.nodup
    rw [hline, List.nodup_cons] at hnodup
    refine ⟨hnodup.2, fun i => ?_, fun hpermit => ?_⟩
    · show i ∈ rest ↔ standsInLine (p.staff.modify worker (.hear .one)) i = true
      rw [standsInLine_hear]
      by_cases hi : i = worker
      · rw [if_pos hi, hi]
        exact ⟨fun hmem => absurd hmem hnodup.1, fun hf => by cases hf⟩
      · rw [if_neg hi, ← h.mem_line_iff, hline, List.mem_cons]
        exact ⟨.inr, fun hmem => hmem.resolve_left hi⟩
    · have hnil := h.line_of_permit hpermit
      rw [hline] at hnil
      cases hnil

theorem Lined.wakeLine (h : p.Lined) : p.wakeLine.Lined := by
  refine ⟨List.nodup_nil, fun i => ?_, fun _ => rfl⟩
  show i ∈ [] ↔ standsInLine (p.line.foldl _ p.staff) i = true
  rw [standsInLine_foldl_hear]
  by_cases hi : i ∈ p.line
  · rw [if_pos hi]
    exact ⟨fun hmem => absurd hmem List.not_mem_nil, fun hf => by cases hf⟩
  · rw [if_neg hi, ← h.mem_line_iff]
    exact ⟨fun hmem => absurd hmem List.not_mem_nil, fun hmem => absurd hmem hi⟩

/-- A change of a worker that neither joins nor leaves the line. -/
theorem Lined.set (h : p.Lined) {worker : Nat} {w : Worker T} (v : Worker T)
    (hw : p.staff[worker]? = some w)
    (hstaff : q.staff = p.staff.set worker v) (hsame : v.isInLine = w.isInLine)
    (hline : q.line = p.line)
    (hpermit : q.permit = true → p.permit = true) : q.Lined := by
  refine ⟨hline ▸ h.nodup, fun i => ?_, fun hq => hline ▸ h.line_of_permit (hpermit hq)⟩
  rw [hline, h.mem_line_iff, hstaff, standsInLine_set v hw]
  by_cases hi : i = worker
  · rw [if_pos hi, hsame, hi, standsInLine, hw, Option.any_some]
  · rw [if_neg hi]

theorem Lined.happens (hp : p.Lined) (h : Happens p a q) : q.Lined := by
  cases h with
  | hire task _ _ _ _ =>
    -- The new worker comes last and is not in the line.
    refine ⟨hp.nodup, fun i => ?_, hp.line_of_permit⟩
    show i ∈ p.line ↔ standsInLine (p.staff ++ [Worker.looking]) i = true
    rw [hp.mem_line_iff]
    unfold standsInLine
    rcases Nat.lt_trichotomy i p.staff.length with hlt | rfl | hgt
    · rw [List.getElem?_append_left hlt]
    · rw [List.getElem?_concat_length, List.getElem?_eq_none (Nat.le_refl _)]
      rfl
    · rw [List.getElem?_eq_none (Nat.le_of_lt hgt),
        List.getElem?_eq_none (by rw [List.length_append, List.length_singleton]; omega)]
  | accept task _ _ _ => exact ⟨hp.nodup, hp.mem_line_iff, hp.line_of_permit⟩
  | notify _ => exact Lined.wakeOne ⟨hp.nodup, hp.mem_line_iff, hp.line_of_permit⟩
  | take worker now task rest hw _ => exact hp.set _ hw rfl rfl rfl id
  | leave worker now hw _ _ => exact hp.set _ hw rfl rfl rfl id
  | parkWoken worker now hw _ _ _ => exact hp.set _ hw rfl rfl rfl fun hf => by cases hf
  | park worker now due hw _ _ hpermit _ =>
    -- A worker parks once, so it was not in the line before.
    have hout : worker ∉ p.line := by
      rw [hp.mem_line_iff, standsInLine, hw]
      exact Bool.false_ne_true
    refine ⟨?_, fun i => ?_, fun hq => absurd (hpermit.symm.trans hq) Bool.false_ne_true⟩
    · exact List.nodup_append'.mpr
        ⟨hp.nodup, List.nodup_singleton worker, List.disjoint_singleton.mpr hout⟩
    · show i ∈ p.line ++ [worker] ↔ standsInLine (p.staff.set worker (.parked due)) i = true
      rw [List.mem_append, List.mem_singleton, standsInLine_set _ hw, hp.mem_line_iff]
      by_cases hi : i = worker
      · rw [if_pos hi]
        exact ⟨fun _ => rfl, fun _ => .inr hi⟩
      · rw [if_neg hi]
        exact ⟨fun h => h.resolve_right hi, .inl⟩
  | finish worker task hw => exact hp.set _ hw rfl rfl rfl id
  | panic worker task hw => exact hp.set _ hw rfl rfl rfl id
  | wake worker hw => exact hp.set _ hw rfl rfl rfl id
  | expire worker now due hw _ => exact hp.set _ hw rfl rfl rfl id
  | resign worker heard hw => cases heard <;> exact hp.set _ hw rfl rfl rfl id
  | withdraw worker retires hw =>
    -- A worker that withdraws leaves the line and does not park again.
    refine ⟨hp.nodup.erase worker, fun i => ?_, fun hq => ?_⟩
    · show i ∈ p.line.erase worker ↔
        standsInLine (p.staff.set worker (if retires then .exiting else .looking)) i = true
      rw [hp.nodup.mem_erase_iff, standsInLine_set _ hw, hp.mem_line_iff]
      by_cases hi : i = worker
      · rw [if_pos hi]
        exact ⟨fun h => absurd hi h.1, fun h => by cases retires <;> cases h⟩
      · rw [if_neg hi]
        exact ⟨fun h => h.2, fun h => ⟨hi, h⟩⟩
    · show p.line.erase worker = []
      rw [hp.line_of_permit hq, List.erase_nil]
  | passOn worker retires hw =>
    have hset : (p.setWorker worker (if retires then .exiting else .looking)).Lined := by
      cases retires <;> exact hp.set _ hw rfl rfl rfl id
    exact hset.wakeOne
  | withdrawWoken worker retires hw => cases retires <;> exact hp.set _ hw rfl rfl rfl id
  | strike worker hw => exact hp.set _ hw rfl rfl rfl id
  | wakeAll closer _ =>
    exact ⟨hp.wakeLine.nodup, hp.wakeLine.mem_line_iff, hp.wakeLine.line_of_permit⟩
  | announce _ | close | register _ _ | readGone _ _ _ _ | readBusy _ _ _ _ | resume _ _ =>
    exact ⟨hp.nodup, hp.mem_line_iff, hp.line_of_permit⟩

/-! ### Tasks -/

/-- Whether the tasks that were accepted are those handed over, and behind them those in the
queue. -/
def Accounted (p : Pool T) : Prop := p.accepted = p.handed ++ p.queue

theorem Accounted.happens (hp : p.Accounted) (h : Happens p a q) : q.Accounted := by
  unfold Accounted at hp ⊢
  cases h with
  | hire task _ _ _ _ | accept task _ _ _ =>
    show p.accepted ++ [task] = p.handed ++ (p.queue ++ [task])
    rw [hp, List.append_assoc]
  | notify _ | passOn _ _ _ => rwa [accepted_wakeOne, handed_wakeOne, queue_wakeOne]
  | take worker now task rest _ hqueue =>
    show p.accepted = p.handed ++ [task] ++ rest
    rw [hp, hqueue, List.append_assoc]
    rfl
  | _ => exact hp

/-- A submit adds its task to those that were accepted, and nothing else does. -/
theorem Happens.accepted_eq (h : Happens p a q) :
    q.accepted = p.accepted ∨ ∃ task, a = .submit task ∧ q.accepted = p.accepted ++ [task] := by
  cases h with
  | hire task _ _ _ _ | accept task _ _ _ => exact .inr ⟨task, rfl, rfl⟩
  | notify _ | passOn _ _ _ => exact .inl (accepted_wakeOne _)
  | _ => exact .inl rfl

theorem accepted_submit {task : T} (h : p.submit task = .ok q) :
    q.accepted = p.accepted ++ [task] := by
  cases happens_of_submit h with
  | hire _ _ _ _ _ | accept _ _ _ _ => rfl

/-- What is in the queue was there before, but for the task of a submit. -/
theorem Happens.mem_queue (h : Happens p a q) {task : T} (hmem : task ∈ q.queue) :
    task ∈ p.queue ∨ a = .submit task := by
  cases h with
  | hire new _ _ _ _ | accept new _ _ _ =>
    rcases List.mem_append.mp hmem with hold | hnew
    · exact .inl hold
    · rw [List.mem_singleton.mp hnew]
      exact .inr rfl
  | notify _ | passOn _ _ _ =>
    rw [queue_wakeOne] at hmem
    exact .inl hmem
  | take worker now first rest _ hqueue =>
    rw [hqueue]
    exact .inl (List.mem_cons_of_mem first hmem)
  | _ => exact .inl hmem

theorem running_of_mem_modify {how : Wakeup} {staff : List (Worker T)} {worker : Nat} {task : T}
    (h : Worker.running task ∈ staff.modify worker (.hear how)) : Worker.running task ∈ staff := by
  obtain ⟨i, hi⟩ := List.mem_iff_getElem?.mp h
  rw [List.getElem?_modify, Option.map_eq_map] at hi
  obtain ⟨w, hw, heq⟩ := Option.map_eq_some_iff.mp hi
  have hsame : w = .running task := by
    by_cases hworker : worker = i
    · rw [if_pos hworker] at heq
      -- Only a worker that runs the task still does so when it has heard a wake-up.
      rcases w with _ | _ | _ | _ | (_ | _) | ⟨_, _ | _⟩ | _ | _ <;> cases heq
      rfl
    · rwa [if_neg hworker] at heq
  exact hsame ▸ List.mem_of_getElem? hw

theorem running_of_mem_foldl {how : Wakeup} {line : List Nat} {staff : List (Worker T)} {task : T}
    (h : Worker.running task ∈ line.foldl
      (fun staff worker => staff.modify worker (.hear how)) staff) :
    Worker.running task ∈ staff := by
  induction line generalizing staff with
  | nil => exact h
  | cons worker rest ih => exact running_of_mem_modify (ih h)

theorem running_of_mem_wakeOne {task : T} (h : Worker.running task ∈ p.wakeOne.staff) :
    Worker.running task ∈ p.staff := by
  cases hline : p.line with
  | nil => rwa [wakeOne_of_nil hline] at h
  | cons worker rest =>
    rw [wakeOne_of_cons hline] at h
    exact running_of_mem_modify h

theorem running_of_mem_set {staff : List (Worker T)} {worker : Nat} {v : Worker T} {task : T}
    (h : Worker.running task ∈ staff.set worker v) (hv : v.isRunning = false) :
    Worker.running task ∈ staff := by
  rcases List.mem_or_eq_of_mem_set h with hold | rfl
  · exact hold
  · cases hv

/-- A task that a worker runs was run before, or was the first in the queue and is handed over. -/
theorem Happens.running (h : Happens p a q) {task : T} (hmem : Worker.running task ∈ q.staff) :
    Worker.running task ∈ p.staff ∨ task ∈ p.queue ∧ task ∈ q.handed := by
  cases h with
  | hire new _ _ _ _ =>
    rcases List.mem_append.mp hmem with hold | hnew
    · exact .inl hold
    · cases List.mem_singleton.mp hnew
  | take worker now first rest _ hqueue =>
    rcases List.mem_or_eq_of_mem_set hmem with hold | heq
    · exact .inl hold
    · cases heq
      rw [hqueue]
      exact .inr ⟨List.mem_cons_self, List.mem_append_right _ (List.mem_singleton_self task)⟩
  | notify _ =>
    exact .inl (running_of_mem_wakeOne (p := { p with owedWakeups := p.owedWakeups - 1 }) hmem)
  | passOn worker retires _ =>
    left
    cases retires <;> exact running_of_mem_set (running_of_mem_wakeOne hmem) rfl
  | wakeAll closer _ => exact .inl (running_of_mem_foldl hmem)
  | leave worker now _ _ _ | parkWoken worker now _ _ _ _ | park worker now due _ _ _ _ _
  | finish worker other _
  | panic worker other _ | wake worker _ | expire worker now due _ _ | resign worker heard _
  | strike worker _ => exact .inl (running_of_mem_set hmem rfl)
  | withdraw worker retires _ | withdrawWoken worker retires _ =>
    left
    cases retires <;> exact running_of_mem_set hmem rfl
  | _ => exact .inl hmem

theorem Happens.handed_subset (h : Happens p a q) : p.handed ⊆ q.handed := by
  cases h with
  | take worker now task rest _ _ => exact List.subset_append_left p.handed [task]
  | notify _ | passOn _ _ _ =>
    rw [handed_wakeOne]
    exact List.Subset.refl _
  | _ => exact List.Subset.refl _

/-- Whether every worker runs a task that was handed over. -/
def Busy (p : Pool T) : Prop := ∀ task, Worker.running task ∈ p.staff → task ∈ p.handed

theorem Busy.happens (hp : p.Busy) (h : Happens p a q) : q.Busy := by
  intro task hmem
  rcases h.running hmem with hold | ⟨-, hnew⟩
  · exact h.handed_subset (hp task hold)
  · exact hnew

/-- Whether no more workers run tasks of any sort than such tasks were handed over. -/
def Once (p : Pool T) : Prop := ∀ f, p.staff.countP (Worker.runs f) ≤ p.handed.countP f

theorem Once.wakeOne (h : p.Once) : p.wakeOne.Once := by
  intro f
  rw [countP_wakeOne (Worker.runs_hear f), handed_wakeOne]
  exact h f

/-- A change of a worker after which it runs no task. -/
theorem Once.set (h : p.Once) {worker : Nat} {w : Worker T} (v : Worker T)
    (hw : p.staff[worker]? = some w)
    (hstaff : q.staff = p.staff.set worker v) (hv : v.isRunning = false)
    (hhanded : q.handed = p.handed) :
    q.Once := by
  intro f
  have hset := countP_set_add (Worker.runs f) v hw
  rw [Worker.runs_eq_false hv f, Bool.toNat_false, ← hstaff] at hset
  have hold := h f
  rw [hhanded]
  omega

theorem Once.happens (hp : p.Once) (h : Happens p a q) : q.Once := by
  cases h with
  | hire task _ _ _ _ =>
    intro f
    show (p.staff ++ [Worker.looking]).countP (Worker.runs f) ≤ p.handed.countP f
    rw [List.countP_append]
    exact hp f
  | take worker now task rest hw _ =>
    intro f
    have hset := countP_set_add (Worker.runs f) (.running task) hw
    have hold := hp f
    show (p.staff.set worker (.running task)).countP (Worker.runs f) ≤ (p.handed ++ [task]).countP f
    rw [List.countP_append, List.countP_singleton]
    -- The worker ran nothing before, and the task is new on both sides.
    have hnone : ((Worker.looking : Worker T).runs f).toNat = 0 := rfl
    have hnew : ((Worker.running task).runs f).toNat = if f task = true then 1 else 0 := by
      show (f task).toNat = _
      cases f task <;> rfl
    omega
  | notify _ => exact Once.wakeOne hp
  | passOn worker retires hw =>
    have hset : (p.setWorker worker (if retires then .exiting else .looking)).Once := by
      cases retires <;> exact hp.set _ hw rfl rfl rfl
    exact hset.wakeOne
  | wakeAll closer _ =>
    intro f
    show p.wakeLine.staff.countP (Worker.runs f) ≤ _
    rw [countP_wakeLine (Worker.runs_hear f)]
    exact hp f
  | leave worker now hw _ _ | parkWoken worker now hw _ _ _ | park worker now due hw _ _ _ _
  | finish worker task hw | panic worker task hw | wake worker hw | expire worker now due hw _
  | resign worker heard hw | strike worker hw => exact hp.set _ hw rfl rfl rfl
  | withdraw worker retires hw | withdrawWoken worker retires hw =>
    cases retires <;> exact hp.set _ hw rfl rfl rfl
  | _ => exact hp

/-- A task that was handed over once is run by one worker. -/
theorem Once.eq_of_running (h : p.Once) {f : T → Bool} (hone : p.handed.countP f ≤ 1) {i j : Nat}
    {x y : T}
    (hi : p.staff[i]? = some (.running x)) (hj : p.staff[j]? = some (.running y)) (hx : f x = true)
    (hy : f y = true) : i = j := by
  by_contra hne
  -- Without the first worker there would still be the second.
  have hset := countP_set_add (Worker.runs f) .gone hi
  have hrest : 1 ≤ (p.staff.set i .gone).countP (Worker.runs f) := by
    have hget : (p.staff.set i .gone)[j]? = some (.running y) := (List.getElem?_set_ne hne).trans hj
    have hle := toNat_le_countP (Worker.runs f) hget
    rwa [Worker.runs, hy] at hle
  have hgone : ((Worker.gone : Worker T).runs f).toNat = 0 := rfl
  have hfirst : ((Worker.running x).runs f).toNat = 1 := by
    rw [Worker.runs, hx]
    rfl
  have hcount := h f
  omega

/-! ### Shutdowns -/

/-- No action but the call for a shutdown closes a pool. -/
theorem Happens.closed_eq (h : Happens p a q) (ha : a ≠ .close) : q.closed = p.closed := by
  cases h with
  | close => exact absurd rfl ha
  | notify | passOn => exact closed_wakeOne _
  | _ => rfl

/-- Whether everyone who called for a shutdown closed the pool, and saw its end only without
workers. -/
structure Finished (p : Pool T) : Prop where
  closed_of_mem : ∀ c ∈ p.closers, p.closed = true
  workers_eq_zero : Closer.done ∈ p.closers → p.workers = 0

theorem Finished.setCloser (h : p.Finished) {closer : Nat} {c d : Closer}
    (hc : p.closers[closer]? = some c)
    (hdone : d = .done → p.workers = 0) : (p.setCloser closer d).Finished := by
  refine ⟨fun _ _ => h.closed_of_mem c (List.mem_of_getElem? hc), fun hmem => ?_⟩
  rcases List.mem_or_eq_of_mem_set hmem with hold | heq
  · exact h.workers_eq_zero hold
  · exact hdone heq.symm

theorem Finished.happens (hp : p.Finished) (h : Happens p a q) : q.Finished := by
  cases h with
  | hire task hopen _ _ _ =>
    -- A pool that is open has no caller of a shutdown, so nobody has seen its end.
    refine ⟨hp.closed_of_mem, fun hmem => ?_⟩
    have hclosed := hp.closed_of_mem _ hmem
    rw [hopen] at hclosed
    cases hclosed
  | notify _ | passOn _ _ _ =>
    refine ⟨fun c hc => ?_, fun hmem => ?_⟩
    · rw [closers_wakeOne] at hc
      rw [closed_wakeOne]
      exact hp.closed_of_mem c hc
    · rw [closers_wakeOne] at hmem
      rw [workers_wakeOne]
      exact hp.workers_eq_zero hmem
  | strike worker _ =>
    refine ⟨hp.closed_of_mem, fun hmem => ?_⟩
    show p.workers - 1 = 0
    rw [hp.workers_eq_zero hmem]
  | announce _ =>
    refine ⟨fun c hc => ?_, fun hmem => ?_⟩
    · obtain ⟨d, hd, -⟩ := List.mem_map.mp hc
      exact hp.closed_of_mem d hd
    · obtain ⟨d, hd, heq⟩ := List.mem_map.mp hmem
      cases d <;> cases heq
      exact hp.workers_eq_zero hd
  | close =>
    refine ⟨fun _ _ => rfl, fun hmem => ?_⟩
    rcases List.mem_append.mp hmem with hold | hnew
    · exact hp.workers_eq_zero hold
    · cases List.mem_singleton.mp hnew
  | wakeAll closer hc =>
    have hline : p.wakeLine.Finished := ⟨hp.closed_of_mem, hp.workers_eq_zero⟩
    exact hline.setCloser hc fun hd => by cases hd
  | register closer hc => exact hp.setCloser hc fun hd => by cases hd
  | readGone closer signalled hc hgone => exact hp.setCloser hc fun _ => hgone
  | readBusy closer signalled hc _ => exact hp.setCloser hc fun hd => by cases hd
  | resume closer hc => exact hp.setCloser hc fun hd => by cases hd
  | _ => exact ⟨hp.closed_of_mem, hp.workers_eq_zero⟩

/-! ### All of it -/

/-- What holds of every reachable pool. -/
structure Invariant (p : Pool T) : Prop where
  counted : p.Counted
  lined : p.Lined
  accounted : p.Accounted
  busy : p.Busy
  once : p.Once
  finished : p.Finished

theorem invariant_ofSettings (name : String) (s : PoolSettings) (hosted : Bool) :
    (ofSettings name s hosted : Pool T).Invariant where
  counted := counted_ofSettings name s hosted
  lined := lined_ofSettings name s hosted
  accounted := rfl
  busy := fun _ hmem => absurd hmem List.not_mem_nil
  once := fun _ => Nat.le_refl 0
  finished := ⟨fun _ hc => absurd hc List.not_mem_nil, fun hc => absurd hc List.not_mem_nil⟩

theorem Invariant.happens (hp : p.Invariant) (h : Happens p a q) : q.Invariant where
  counted := hp.counted.happens h
  lined := hp.lined.happens h
  accounted := hp.accounted.happens h
  busy := hp.busy.happens h
  once := hp.once.happens h
  finished := hp.finished.happens h

/-- **Every reachable pool satisfies the invariant.** -/
theorem Reachable.invariant {name : String} {s : PoolSettings} {hosted : Bool}
    (h : Reachable name s hosted p) : p.Invariant :=
  h.rec_happens (invariant_ofSettings name s hosted) fun _ _ _ hp => hp.happens

end Pool
end MailPolicy
