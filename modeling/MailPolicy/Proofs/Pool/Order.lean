/-
The order in which tasks are run.

Whatever actions are tried on a pool, some are possible and some are not, and a submit can be
refused.  What came of them is read off the answers to the submits and the workers that turn to a
task, without the records that the pool keeps itself.

* `Pool.accepts?`, `Pool.refuses?` — how a submit is answered;
* `Pool.hands?` — the task that an action makes a worker run;
* `Pool.recorded` — what a list of actions came to;
* `Pool.recorded_accepts` — **the tasks that were accepted are those that were handed over, in
  the same order, and behind them those in the queue**; no refused task is among them, and none is
  handed over twice.
-/
import MailPolicy.Proofs.Pool.Invariant

namespace MailPolicy

variable {T : Type}

/-- The task that an action submits. -/
def PoolAction.submitted? : PoolAction T → Option T
  | submit task => some task
  | _ => none

/-- The task that a worker runs, if it does. -/
def Worker.task? : Worker T → Option T
  | running task => some task
  | _ => none

namespace Pool

variable {p q : Pool T} {a : PoolAction T}

/-! ### What an action comes to -/

/-- The task that an action submits, if it is accepted. -/
def accepts? (p : Pool T) : PoolAction T → Option T
  | .submit task => if (p.submit task).isOk then some task else none
  | _ => none

/-- The task that an action submits, if it is refused. -/
def refuses? (p : Pool T) : PoolAction T → Option T
  | .submit task => if (p.submit task).isOk then none else some task
  | _ => none

/-- The task that the worker with a number runs, if it does. -/
def taskOf? (p : Pool T) (worker : Nat) : Option T := p.staff[worker]?.bind Worker.task?

/-- The task that an action makes a worker run. -/
def hands? (p : Pool T) : PoolAction T → Option T
  | .look worker now =>
    match p.taskOf? worker with
    | some _ => none
    | none => (p.attempt (.look worker now)).taskOf? worker
  | _ => none

/-- What is recorded while actions are tried one after the other. -/
def recorded (record : Pool T → PoolAction T → Option T) (p : Pool T) : List (PoolAction T) → List T
  | [] => []
  | a :: rest => (record p a).toList ++ recorded record (p.attempt a) rest

theorem attempt_eq_or (p : Pool T) (a : PoolAction T) :
    p.attempt a = p ∧ p.step a = none ∨ Happens p a (p.attempt a) := by
  unfold attempt
  cases h : p.step a with
  | none => exact .inl ⟨rfl, rfl⟩
  | some q => exact .inr (happens_of_step h)

theorem taskOf?_of_looking {worker : Nat} (hw : p.staff[worker]? = some .looking) :
    p.taskOf? worker = none := by
  rw [taskOf?, hw]
  rfl

theorem taskOf?_setWorker {worker : Nat} {w : Worker T} (v : Worker T)
    (hw : p.staff[worker]? = some w) (hstaff : q.staff = p.staff.set worker v) :
    q.taskOf? worker = v.task? := by
  obtain ⟨hlt, -⟩ := List.getElem?_eq_some_iff.mp hw
  rw [taskOf?, hstaff, List.getElem?_set_self hlt, Option.bind_some]

/-- The pool keeps a record of the tasks that it accepts. -/
theorem accepted_attempt (p : Pool T) (a : PoolAction T) :
    (p.attempt a).accepted = p.accepted ++ (p.accepts? a).toList := by
  cases a with
  | submit task =>
    rw [attempt, step, accepts?]
    cases h : p.submit task with
    | ok q => exact accepted_submit h
    | error reason => exact (List.append_nil _).symm
  | _ =>
    show _ = p.accepted ++ []
    rw [List.append_nil]
    rcases attempt_eq_or p _ with ⟨heq, -⟩ | h
    · rw [heq]
    · rcases h.accepted_eq with heq | ⟨task, htask, -⟩
      · exact heq
      · cases htask

/-- And of those that it hands over. -/
theorem handed_attempt (p : Pool T) (a : PoolAction T) :
    (p.attempt a).handed = p.handed ++ (p.hands? a).toList := by
  rcases attempt_eq_or p a with ⟨heq, hnone⟩ | h
  · -- Without a step nobody turns to a task.
    have hidle : p.hands? a = none := by
      cases a with
      | look worker now =>
        rw [hands?, heq]
        cases h : p.taskOf? worker with
        | none => rfl
        | some task => rfl
      | _ => rfl
    rw [heq, hidle, Option.toList_none, List.append_nil]
  · generalize hq : p.attempt a = q at h ⊢
    cases h with
    | take worker now task rest hw _ =>
      rw [hands?, taskOf?_of_looking hw, hq]
      dsimp only
      rw [taskOf?_setWorker (.running task) hw rfl]
      rfl
    | leave worker now hw _ _ | parkWoken worker now hw _ _ _ | park worker now due hw _ _ _ _ =>
      -- A worker that finds no task turns to something else.
      rw [hands?, taskOf?_of_looking hw, hq]
      dsimp only
      rw [taskOf?_setWorker _ hw rfl]
      exact (List.append_nil _).symm
    | notify _ | passOn _ _ _ => rw [handed_wakeOne]; exact (List.append_nil _).symm
    | _ => exact (List.append_nil _).symm

/-! ### What actions come to -/

section Recorded

variable (as : List (PoolAction T))

theorem accepted_attemptAll (p : Pool T) :
    (p.attemptAll as).accepted = p.accepted ++ recorded accepts? p as := by
  induction as generalizing p with
  | nil => exact (List.append_nil _).symm
  | cons a rest ih =>
    show ((p.attempt a).attemptAll rest).accepted = _
    rw [ih, accepted_attempt, recorded, List.append_assoc]

theorem handed_attemptAll (p : Pool T) :
    (p.attemptAll as).handed = p.handed ++ recorded hands? p as := by
  induction as generalizing p with
  | nil => exact (List.append_nil _).symm
  | cons a rest ih =>
    show ((p.attempt a).attemptAll rest).handed = _
    rw [ih, handed_attempt, recorded, List.append_assoc]

/-- A task that is submitted is accepted or refused. -/
theorem perm_submitted (p : Pool T) :
    (recorded accepts? p as ++ recorded refuses? p as).Perm (as.filterMap (·.submitted?)) := by
  induction as generalizing p with
  | nil => exact .refl _
  | cons a rest ih =>
    have hrest := ih (p.attempt a)
    cases a with
    | submit task =>
      rw [recorded, recorded, accepts?, refuses?, List.filterMap_cons, PoolAction.submitted?]
      cases (p.submit task).isOk with
      | true => exact hrest.cons task
      | false => exact List.perm_middle.trans (hrest.cons task)
    | _ => exact hrest

end Recorded

/-- **Tasks are handed over once, in the order in which they were accepted.**  Whatever is tried
on a pool, the tasks that were accepted are those that were handed over, and behind them those in
the queue.  When the tasks that are submitted can be told apart, none is handed over twice and none
that was refused is handed over. -/
theorem recorded_accepts (name : String) (s : PoolSettings) (hosted : Bool)
    (as : List (PoolAction T)) :
    let start : Pool T := ofSettings name s hosted
    recorded accepts? start as = recorded hands? start as ++ (start.attemptAll as).queue ∧
      ((as.filterMap (·.submitted?)).Nodup → (recorded hands? start as).Nodup ∧
        ∀ task ∈ recorded refuses? start as, task ∉ recorded hands? start as) := by
  intro start
  have hreachable : Reachable name s hosted (start.attemptAll as) := Reachable.start.attemptAll as
  have horder : recorded accepts? start as =
      recorded hands? start as ++ (start.attemptAll as).queue := by
    have haccounted := hreachable.invariant.accounted
    rw [Accounted, accepted_attemptAll, handed_attemptAll] at haccounted
    exact haccounted
  refine ⟨horder, fun hdistinct => ?_⟩
  have hnodup := (perm_submitted as start).nodup_iff.mpr hdistinct
  obtain ⟨haccepted, -, hdisjoint⟩ := List.nodup_append'.mp hnodup
  rw [horder] at haccepted hdisjoint
  refine ⟨haccepted.of_append_left, fun task hrefused hhanded => ?_⟩
  exact hdisjoint (List.mem_append_left _ hhanded) hrefused

/-- A pool with one worker and room for one task refuses the second, and goes on with the third
after the handler has panicked over the first. -/
theorem recorded_accepts_panic :
    let start : Pool Nat := ofSettings "one" { maxWorkers := 1, maxTasks := 1 } true
    let as : List (PoolAction Nat) := [.submit 1, .submit 2, .look 0 0, .panic 0, .submit 3,
      .strike 0, .submit 4, .look 1 0]
    recorded hands? start as = [1, 3] ∧ recorded refuses? start as = [2] ∧
      recorded accepts? start as = [1, 3] ++ [4] ∧ 2 ∉ recorded hands? start as := by
  intro start as
  have hhanded : recorded hands? start as = [1, 3] := by decide +kernel
  have hrefused : recorded refuses? start as = [2] := by decide +kernel
  have hqueue : (start.attemptAll as).queue = [4] := by decide +kernel
  have hdistinct : (as.filterMap (·.submitted?)).Nodup := by decide
  obtain ⟨horder, honce⟩ := recorded_accepts "one" { maxWorkers := 1, maxTasks := 1 } true as
  refine ⟨hhanded, hrefused, ?_, (honce hdistinct).2 2 ?_⟩
  · rw [← hhanded, ← hqueue]
    exact horder
  · show 2 ∈ recorded refuses? start as
    rw [hrefused]
    exact List.mem_singleton_self 2

end Pool
end MailPolicy
