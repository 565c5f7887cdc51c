/-
What a crew keeps while it runs.

Turns, timers and gates decide which worker goes on, but whatever goes on is an action of the
pool, the start of a call or its end.  So a property of the pool and of what the handler works on
that each of these keeps is kept by the whole crew.

* `Crew.Keeps` — the actions, starts and ends of calls keep a property;
* `Crew.Keeps.settle` — **then so does the whole crew** until it blocks;
* `Crew.exists_of_submit` — what becomes of the pool when a crew takes a task.
-/
import MailPolicy.Pool.Crew

namespace MailPolicy

/-- Whether an action is neither a submit nor the end of a call. -/
def PoolAction.isFree {T : Type} : PoolAction T → Bool
  | submit _ | finish _ | panic _ => false
  | _ => true

/-- Whether an action is one of those that a crew performs by itself. -/
def PoolAction.isOwn {T : Type} : PoolAction T → Bool
  | submit _ | finish _ | panic _ | close => false
  | _ => true

theorem PoolAction.isFree_of_isOwn {T : Type} {a : PoolAction T} (h : a.isOwn = true) :
    a.isFree = true := by
  cases a with
  | close => rfl
  | _ => exact h

namespace Crew

variable {T σ : Type} {h : Handler T σ} {P : Pool T → σ → Prop} {c : Crew T} {env : σ}

/-- The end of a worker's call, by the way it ended. -/
def endOf (worker : Nat) : Ending → PoolAction T
  | .returned => .finish worker
  | .panicked => .panic worker

/-- The worker of the call that ends does not run it any more. -/
theorem exists_step_endOf {p : Pool T} {worker : Nat} {task : T} (ending : Ending)
    (h : p.staff[worker]? = some (.running task)) :
    ∃ v : Worker T, (∀ task, v ≠ .running task) ∧
      p.step (endOf worker ending) = some (p.setWorker worker v) := by
  cases ending with
  | returned =>
    refine ⟨.looking, ?_, ?_⟩
    · intro task' heq
      cases heq
    · rw [endOf, Pool.step, h]
  | panicked =>
    refine ⟨.exiting, ?_, ?_⟩
    · intro task' heq
      cases heq
    · rw [endOf, Pool.step, h]

theorem endOf_ne_submit {worker : Nat} {ending : Ending} (task : T) :
    endOf worker ending ≠ .submit task := by
  intro heq
  cases ending <;> cases heq

/-- The end of a call is that of one worker. -/
theorem eq_of_endOf {worker other : Nat} {ending : Ending}
    (h : (endOf worker ending : PoolAction T) = .finish other ∨
      (endOf worker ending : PoolAction T) = .panic other) :
    other = worker := by
  cases ending with
  | returned =>
    rcases h with heq | heq
    · exact (PoolAction.finish.inj heq).symm
    · cases heq
  | panicked =>
    rcases h with heq | heq
    · cases heq
    · exact (PoolAction.panic.inj heq).symm

/-- Whether a property of a pool, and of what its handler works on, is kept by whatever a crew
does. -/
structure Keeps (h : Handler T σ) (P : Pool T → σ → Prop) : Prop where
  act : ∀ (p : Pool T) env a q, PoolAction.isOwn a = true → p.step a = some q → P p env → P q env
  start : ∀ (p : Pool T) env now (worker : Nat) task, p.staff[worker]? = some (.running task) →
    P p env →
    P p (h.start env now task).2
  finish : ∀ (p : Pool T) env (worker : Nat) task, p.staff[worker]? = some (.running task) →
    P p env →
    P (p.attempt (endOf worker (h.finish env task).1)) (h.finish env task).2

namespace Keeps

theorem attempt (hk : Keeps h P) {p : Pool T} {a : PoolAction T} (ha : a.isOwn = true)
    (hp : P p env) :
    P (p.attempt a) env := by
  unfold Pool.attempt
  cases hs : p.step a with
  | none => exact hp
  | some q => exact hk.act p env a q ha hs hp

theorem attemptAll (hk : Keeps h P) {p : Pool T} {as : List (PoolAction T)}
    (has : ∀ a ∈ as, a.isOwn = true)
    (hp : P p env) : P (p.attemptAll as) env := by
  induction as generalizing p with
  | nil => exact hp
  | cons a rest ih =>
    exact ih (fun b hb => has b (List.mem_cons_of_mem a hb))
      (hk.attempt (has a List.mem_cons_self) hp)

/-! ### Workers -/

theorem pool_arrive (c : Crew T) (worker : Nat) : (c.arrive worker).pool = c.pool := by
  unfold arrive
  split <;> rfl

theorem look (hk : Keeps h P) (hp : P c.pool env) (now worker : Nat) :
    P (c.look h now worker env).1.pool (c.look h now worker env).2 := by
  have hlooked : P (c.act (.look worker now)).pool env := hk.attempt rfl hp
  unfold Crew.look
  dsimp only
  cases hworker : (c.act (.look worker now)).pool.staff[worker]? with
  | none => exact hlooked
  | some w =>
    cases w with
    | running task =>
      have hstarted := hk.start _ env now worker task hworker hlooked
      dsimp only
      by_cases hgated : (h.start env now task).1 = .gated
      · rw [if_pos hgated, pool_arrive]
        exact hstarted
      · rw [if_neg hgated]
        exact hstarted
    | _ => exact hlooked

theorem finish_call (hk : Keeps h P) (hp : P c.pool env) {worker : Nat} {task : T}
    (hworker : c.pool.staff[worker]? = some (.running task)) :
    P (c.finish h worker task env).1.pool (c.finish h worker task env).2 := by
  have hended := hk.finish c.pool env worker task hworker hp
  unfold Crew.finish
  cases hending : (h.finish env task).1 with
  | returned =>
    rw [hending] at hended
    simp only [hending]
    exact hended
  | panicked =>
    rw [hending] at hended
    simp only [hending]
    exact hended

theorem advance? (hk : Keeps h P) (hp : P c.pool env) {now worker : Nat} {c' : Crew T} {env' : σ}
    (ha : c.advance? h now worker env = some (c', env')) : P c'.pool env' := by
  -- What a worker does next depends on where it stands; one that is blocked does nothing.
  unfold Crew.advance? at ha
  cases hworker : c.pool.staff[worker]? with
  | none =>
    rw [hworker] at ha
    cases ha
  | some w =>
    rw [hworker] at ha
    cases w with
    | looking =>
      have hlooked := hk.look hp now worker
      rw [Option.some.inj ha] at hlooked
      exact hlooked
    | running task =>
      have hcall := hk.finish_call hp hworker
      cases hcourse : c.course worker with
      | ready =>
        simp only [hcourse] at ha
        rw [Option.some.inj ha] at hcall
        exact hcall
      | sleeps due =>
        simp only [hcourse] at ha
        obtain ⟨-, ha⟩ := Option.ite_none_right_eq_some.mp ha
        rw [Option.some.inj ha] at hcall
        exact hcall
      | gated | hangs =>
        simp only [hcourse] at ha
        cases ha
    | parked due =>
      cases due with
      | none => cases ha
      | some due =>
        obtain ⟨-, ha⟩ := Option.ite_none_right_eq_some.mp ha
        cases ha
        exact hk.attempt rfl hp
    | woken =>
      cases ha
      exact hk.attempt rfl hp
    | expired heard =>
      cases ha
      exact hk.attempt rfl hp
    | withdrawing retires heard =>
      cases ha
      exact hk.attempt rfl hp
    | exiting =>
      cases ha
      exact hk.attempt rfl (hk.attempt rfl hp)
    | gone => cases ha

theorem runWorker (hk : Keeps h P) (now worker fuel : Nat) (hp : P c.pool env) :
    P (c.runWorker h now worker fuel env).1.pool (c.runWorker h now worker fuel env).2 := by
  induction fuel generalizing c env with
  | zero => exact hp
  | succ fuel ih =>
    unfold Crew.runWorker
    cases ha : c.advance? h now worker env with
    | none => exact hp
    | some next =>
      obtain ⟨c', env'⟩ := next
      exact ih (hk.advance? hp ha)

theorem pool_startTimer (c : Crew T) (worker : Nat) : (c.startTimer worker).pool = c.pool := by
  unfold startTimer
  split <;> rfl

theorem runTurns (hk : Keeps h P) (now fuel : Nat) (hp : P c.pool env) :
    P (c.runTurns h now fuel env).1.pool (c.runTurns h now fuel env).2 := by
  induction fuel generalizing c env with
  | zero => exact hp
  | succ fuel ih =>
    unfold Crew.runTurns
    cases hturns : c.turns with
    | nil => exact hp
    | cons worker rest =>
      have hran := hk.runWorker (c := { c with turns := rest }) now worker c.enough hp
      refine ih ?_
      show P (Crew.startTimer _ _).pool _
      rw [pool_startTimer]
      exact hran

/-! ### The whole crew -/

theorem runClosers (hk : Keeps h P) (hp : P c.pool env) : P c.runClosers.pool env := by
  unfold Crew.runClosers
  generalize List.range c.pool.closers.length = closers
  induction closers generalizing c with
  | nil => exact hp
  | cons closer rest ih =>
    refine ih (c := c.runCloser closer) ?_
    refine hk.attemptAll ?_ hp
    intro a ha
    rcases List.mem_cons.mp ha with rfl | ha
    · rfl
    rcases List.mem_cons.mp ha with rfl | ha
    · rfl
    rcases List.mem_cons.mp ha with rfl | ha
    · rfl
    rw [List.mem_singleton.mp ha]
    rfl

/-- **A crew keeps what each of its actions keeps.** -/
theorem settle (hk : Keeps h P) (now : Nat) (hp : P c.pool env) :
    P (c.settle h now env).1.pool (c.settle h now env).2 := by
  unfold Crew.settle
  exact hk.runClosers (hk.runTurns now _ (hk.runClosers hp))

end Keeps

/-- A crew that takes a task sends the wake-ups that are due for it. -/
theorem exists_of_submit {task : T} {c' : Crew T} (h : c.submit task = .ok c') :
    ∃ q, c.pool.submit task = .ok q ∧ c'.pool = q.attemptAll
    (List.replicate q.owedWakeups .notify) := by
  unfold submit at h
  cases hq : c.pool.submit task with
  | error reason =>
    rw [hq] at h
    cases h
  | ok q =>
    rw [hq] at h
    cases h
    exact ⟨q, rfl, rfl⟩

/-- A crew refuses a task when its pool does. -/
theorem submit_eq_error {task : T} {reason : PoolError} (h : c.submit task = .error reason) :
    c.pool.submit task = .error reason := by
  unfold submit at h
  cases hq : c.pool.submit task with
  | error other =>
    rw [hq] at h
    exact congrArg Except.error (Except.error.inj h)
  | ok q =>
    rw [hq] at h
    cases h

end Crew
end MailPolicy
