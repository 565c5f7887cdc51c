/-
What the actions of a pool do, one case after the other.

`Pool.step` tells whether an action is possible and what comes of it.  `Pool.Happens` says the
same as a relation with a case for each way in which an action can go, so that a proof about a
step names its cases and finds in each of them what the worker was doing.

* `Pool.happens_of_step` — every step is one of the cases;
* `Pool.Reachable.rec_happens` — what holds at the start and is kept by every case holds
  throughout.
-/
import MailPolicy.Pool.Step

namespace MailPolicy

variable {T : Type}

namespace Pool

/-- What can happen in a pool `p`, and what it leads to. -/
inductive Happens (p : Pool T) : PoolAction T → Pool T → Prop
  | hire (task : T) : p.closed = false → p.isSaturated = false → p.wantsWorker = true →
      p.hosted = true → Happens p (.submit task)
        { p.enqueue task with workers := p.workers + 1, staff := p.staff ++ [.looking] }
  | accept (task : T) : p.closed = false → p.isSaturated = false → p.wantsWorker = false →
      Happens p (.submit task) { p.enqueue task with owedWakeups := p.owedWakeups + 1 }
  | notify : 0 < p.owedWakeups →
      Happens p .notify { p with owedWakeups := p.owedWakeups - 1 }.wakeOne
  | take (worker now : Nat) (task : T) (rest : List T) : p.staff[worker]? = some .looking →
      p.queue = task :: rest →
      Happens p (.look worker now)
        { p.setWorker worker (.running task) with queue := rest, handed := p.handed ++ [task] }
  | leave (worker now : Nat) : p.staff[worker]? = some .looking → p.queue = [] → p.closed = true →
      Happens p (.look worker now) (p.setWorker worker .exiting)
  | parkWoken (worker now : Nat) : p.staff[worker]? = some .looking → p.queue = [] →
      p.closed = false → p.permit = true →
      Happens p (.look worker now)
        { p.setWorker worker .woken with idle := p.idle + 1, permit := false }
  | park (worker now : Nat) (due : Option Nat) : p.staff[worker]? = some .looking → p.queue = [] →
      p.closed = false → p.permit = false →
      due = (if p.nextIsBounded then some (now + p.settings.idleTimeout) else none) →
      Happens p (.look worker now)
        { p.setWorker worker (.parked due) with idle := p.idle + 1, line := p.line ++ [worker] }
  | finish (worker : Nat) (task : T) : p.staff[worker]? = some (.running task) →
      Happens p (.finish worker) (p.setWorker worker .looking)
  | panic (worker : Nat) (task : T) : p.staff[worker]? = some (.running task) →
      Happens p (.panic worker) (p.setWorker worker .exiting)
  | wake (worker : Nat) : p.staff[worker]? = some .woken →
      Happens p (.wake worker) { p.setWorker worker .looking with idle := p.idle - 1 }
  | expire (worker now due : Nat) : p.staff[worker]? = some (.parked (some due)) → due ≤ now →
      Happens p (.expire worker now) (p.setWorker worker (.expired none))
  | resign (worker : Nat) (heard : Option Wakeup) : p.staff[worker]? = some (.expired heard) →
      Happens p (.resign worker)
        { p.setWorker worker (.withdrawing p.queue.isEmpty heard) with idle := p.idle - 1 }
  | withdraw (worker : Nat) (retires : Bool) : p.staff[worker]? = some (.withdrawing retires none) →
      Happens p (.withdraw worker)
        { p.setWorker worker (if retires then .exiting else .looking) with line := p.line.erase worker }
  | passOn (worker : Nat) (retires : Bool) :
      p.staff[worker]? = some (.withdrawing retires (some .one)) →
      Happens p (.withdraw worker)
        (p.setWorker worker (if retires then .exiting else .looking)).wakeOne
  | withdrawWoken (worker : Nat) (retires : Bool) :
      p.staff[worker]? = some (.withdrawing retires (some .all)) →
      Happens p (.withdraw worker) (p.setWorker worker (if retires then .exiting else .looking))
  | strike (worker : Nat) : p.staff[worker]? = some .exiting →
      Happens p (.strike worker)
        { p.setWorker worker .gone with
          workers := p.workers - 1
          owedNews := if p.workers - 1 = 0 then p.owedNews + 1 else p.owedNews }
  | announce : 0 < p.owedNews →
      Happens p .announce
        { p with owedNews := p.owedNews - 1, closers := p.closers.map Closer.signal }
  | close : Happens p .close { p with closed := true, closers := p.closers ++ [.closing] }
  | wakeAll (closer : Nat) : p.closers[closer]? = some .closing →
      Happens p (.wakeAll closer) (p.wakeLine.setCloser closer .registering)
  | register (closer : Nat) : p.closers[closer]? = some .registering →
      Happens p (.register closer) (p.setCloser closer (.registered false))
  | readGone (closer : Nat) (signalled : Bool) : p.closers[closer]? = some (.registered signalled) →
      p.workers = 0 → Happens p (.read closer) (p.setCloser closer .done)
  | readBusy (closer : Nat) (signalled : Bool) : p.closers[closer]? = some (.registered signalled) →
      p.workers ≠ 0 → Happens p (.read closer) (p.setCloser closer (.parked signalled))
  | resume (closer : Nat) : p.closers[closer]? = some (.parked true) →
      Happens p (.resume closer) (p.setCloser closer .registering)

variable {p q : Pool T} {a : PoolAction T}

theorem happens_of_submit {task : T} (h : p.submit task = .ok q) : Happens p (.submit task) q := by
  unfold submit at h
  split at h
  · cases h
  · rename_i hopen
    rw [Bool.not_eq_true] at hopen
    split at h
    · cases h
    · rename_i hroom
      rw [Bool.not_eq_true] at hroom
      split at h
      · rename_i hwants
        split at h
        · rename_i hhosted
          cases h
          exact .hire task hopen hroom hwants hhosted
        · cases h
      · rename_i hwants
        cases h
        exact .accept task hopen hroom (Bool.not_eq_true _ ▸ hwants)

theorem happens_of_look {worker now : Nat} (h : p.step (.look worker now) = some q) :
    Happens p (.look worker now) q := by
  simp only [step] at h
  split at h
  · rename_i hlooking
    split at h
    · rename_i task rest hqueue
      cases h
      exact .take worker now task rest hlooking hqueue
    · rename_i hqueue
      obtain rfl := Option.some.inj h
      by_cases hclosed : p.closed = true
      · rw [if_pos hclosed]
        exact .leave worker now hlooking hqueue hclosed
      · rw [if_neg hclosed, park]
        rw [Bool.not_eq_true] at hclosed
        by_cases hpermit : p.permit = true
        · rw [if_pos hpermit]
          exact .parkWoken worker now hlooking hqueue hclosed hpermit
        · rw [if_neg hpermit]
          exact .park worker now _ hlooking hqueue hclosed (Bool.not_eq_true _ ▸ hpermit) rfl
  · cases h

theorem happens_of_withdraw {worker : Nat} (h : p.step (.withdraw worker) = some q) :
    Happens p (.withdraw worker) q := by
  simp only [step] at h
  split at h
  · rename_i retires heard hworker
    cases heard with
    | none =>
      cases h
      exact .withdraw worker retires hworker
    | some how =>
      cases how with
      | one =>
        cases h
        exact .passOn worker retires hworker
      | all =>
        cases h
        exact .withdrawWoken worker retires hworker
  · cases h

/-- Every step is one of the cases. -/
theorem happens_of_step (h : p.step a = some q) : Happens p a q := by
  -- An action that is possible has found its worker or closer where its case wants it.
  cases a with
  | submit task =>
    simp only [step] at h
    split at h
    · cases h
      exact happens_of_submit ‹_›
    · cases h
  | look worker now => exact happens_of_look h
  | withdraw worker => exact happens_of_withdraw h
  | notify =>
    obtain ⟨howed, hq⟩ := Option.ite_none_right_eq_some.mp h
    cases hq
    exact .notify howed
  | announce =>
    obtain ⟨howed, hq⟩ := Option.ite_none_right_eq_some.mp h
    cases hq
    exact .announce howed
  | close =>
    cases h
    exact .close
  | finish worker =>
    simp only [step] at h
    split at h <;> cases h
    exact .finish worker _ ‹_›
  | panic worker =>
    simp only [step] at h
    split at h <;> cases h
    exact .panic worker _ ‹_›
  | wake worker =>
    simp only [step] at h
    split at h <;> cases h
    exact .wake worker ‹_›
  | expire worker now =>
    simp only [step] at h
    split at h
    · obtain ⟨hdue, hq⟩ := Option.ite_none_right_eq_some.mp h
      cases hq
      exact .expire worker now _ ‹_› hdue
    · cases h
  | resign worker =>
    simp only [step] at h
    split at h <;> cases h
    exact .resign worker _ ‹_›
  | strike worker =>
    simp only [step] at h
    split at h <;> cases h
    exact .strike worker ‹_›
  | wakeAll closer =>
    simp only [step] at h
    split at h <;> cases h
    exact .wakeAll closer ‹_›
  | register closer =>
    simp only [step] at h
    split at h <;> cases h
    exact .register closer ‹_›
  | resume closer =>
    simp only [step] at h
    split at h <;> cases h
    exact .resume closer ‹_›
  | read closer =>
    simp only [step] at h
    split at h
    · obtain rfl := Option.some.inj h
      by_cases hgone : p.workers = 0
      · rw [if_pos hgone]
        exact .readGone closer _ ‹_› hgone
      · rw [if_neg hgone]
        exact .readBusy closer _ ‹_› hgone
    · cases h

/-- What holds at the start and is kept by whatever happens holds of every reachable pool. -/
theorem Reachable.rec_happens {name : String} {s : PoolSettings} {hosted : Bool} {P : Pool T → Prop}
    (start : P (ofSettings name s hosted))
    (keep : ∀ p a q, P p → Happens p a q → P q) (h : Reachable name s hosted p) : P p := by
  induction h with
  | start => exact start
  | step a _ hs ih => exact keep _ a _ ih (happens_of_step hs)

end Pool
end MailPolicy
