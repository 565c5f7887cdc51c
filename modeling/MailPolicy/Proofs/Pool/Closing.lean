/-
What the parties of a shutdown hear.

A shutdown lives on two signals.  Whoever calls for it closes the pool and then wakes everyone in
line.  A worker joins the line in the critical section in which it sees the pool open, so nobody
joins it behind the wake-up.  The last worker to be struck off gives the news to the callers.  A
caller registers for it before it reads the number of workers, so it either sees that none is left
or is told.

* `Pool.Hushed` — the pool is closed and its line is empty, which nothing changes any more;
* `Pool.Unaware` — some caller waits for the news although all workers are gone;
* `Pool.Happens.unaware` — only a strike makes a caller unaware, and it owes the news then;
* `Pool.run_shutdown_heard` — **neither signal is missed**, however the parties take turns.
-/
import MailPolicy.Proofs.Pool.Conservation

namespace MailPolicy

variable {T : Type}

namespace Pool

variable {p q : Pool T} {a : PoolAction T} {as : List (PoolAction T)}

/-! ### Workers -/

/-- Whether a pool is closed and nobody is in line. -/
structure Hushed (p : Pool T) : Prop where
  closed : p.closed = true
  line : p.line = []

/-- Waking all workers leaves nobody in line, in a pool that was closed before. -/
theorem Hushed.of_wakeAll {closer : Nat} (hp : p.Finished) (h : Happens p (.wakeAll closer) q) :
    q.Hushed := by
  cases h with
  | wakeAll _ hc => exact ⟨hp.closed_of_mem _ (List.mem_of_getElem? hc), rfl⟩

theorem Hushed.wakeOne (hp : p.Hushed) : p.wakeOne.Hushed := by
  rw [wakeOne_of_nil hp.line]
  exact ⟨hp.closed, hp.line⟩

/-- A closed pool stays closed, and no worker parks in it. -/
theorem Hushed.happens (hp : p.Hushed) (h : Happens p a q) : q.Hushed := by
  have hnot (hopen : p.closed = false) : q.Hushed := by
    rw [hp.closed] at hopen
    cases hopen
  cases h with
  | hire _ hopen _ _ _ | accept _ hopen _ _ => exact hnot hopen
  | parkWoken _ _ _ _ hopen _ | park _ _ _ _ _ hopen _ _ => exact hnot hopen
  | notify _ => exact Hushed.wakeOne ⟨hp.closed, hp.line⟩
  | passOn worker retires _ => exact Hushed.wakeOne ⟨hp.closed, hp.line⟩
  | withdraw worker _ _ =>
    refine ⟨hp.closed, ?_⟩
    show p.line.erase worker = []
    rw [hp.line, List.erase_nil]
  | close => exact ⟨rfl, hp.line⟩
  | wakeAll _ _ => exact ⟨hp.closed, rfl⟩
  | _ => exact ⟨hp.closed, hp.line⟩

theorem Hushed.isParked_eq_false (hp : p.Hushed) (hlined : p.Lined) :
    ∀ w ∈ p.staff, w.isParked = false := by
  intro w hw
  rw [Bool.eq_false_iff]
  intro hparked
  obtain ⟨i, hi⟩ := List.mem_iff_getElem?.mp hw
  have hmem : i ∈ p.line := by
    rw [hlined.mem_line_iff, standsInLine_iff]
    exact ⟨w, hi, Worker.isInLine_of_isParked hparked⟩
  rw [hp.line] at hmem
  exact List.not_mem_nil hmem

theorem Hushed.submit_eq (hp : p.Hushed) (task : T) :
    p.submit task = .error (.shuttingDown p.name) := by
  rw [submit, if_pos hp.closed]

/-! ### Callers -/

/-- Whether a caller of a shutdown is suspended without the news, although no worker is left. -/
structure Unaware (p : Pool T) : Prop where
  workers : p.workers = 0
  parked : Closer.parked false ∈ p.closers

/-- The news reaches everyone who is suspended. -/
theorem not_unaware_of_announce (h : Happens p .announce q) : ¬q.Unaware := by
  cases h with
  | announce _ =>
    rintro ⟨-, hmem⟩
    obtain ⟨c, -, hc⟩ := List.mem_map.mp hmem
    cases c <;> cases hc

/-- A caller that is set to anything else is not suspended by it. -/
theorem unaware_of_setCloser {closer : Nat} {c : Closer} (h : (p.setCloser closer c).Unaware)
    (hc : c ≠ .parked false) : p.Unaware :=
  ⟨h.workers, (List.mem_or_eq_of_mem_set h.parked).resolve_right hc.symm⟩

/-- A caller becomes unaware only when the last worker is struck off, which then owes the news. -/
theorem Happens.unaware (h : Happens p a q) (hq : q.Unaware) :
    p.Unaware ∧ q.owedNews = p.owedNews ∨ (∃ worker, a = .strike worker) ∧ 0 < q.owedNews := by
  cases h with
  | hire _ _ _ _ _ => exact absurd hq.workers (Nat.succ_ne_zero p.workers)
  | strike worker _ =>
    refine .inr ⟨⟨worker, rfl⟩, ?_⟩
    show 0 < if p.workers - 1 = 0 then p.owedNews + 1 else p.owedNews
    rw [if_pos hq.workers]
    exact Nat.succ_pos _
  | announce howed => exact absurd hq (not_unaware_of_announce (.announce howed))
  | close =>
    refine .inl ⟨⟨hq.workers, ?_⟩, rfl⟩
    refine (List.mem_append.mp hq.parked).resolve_right fun hmem => ?_
    cases List.mem_singleton.mp hmem
  | wakeAll closer _ =>
    have hline : p.wakeLine.Unaware := unaware_of_setCloser hq nofun
    exact .inl ⟨⟨hline.workers, hline.parked⟩, rfl⟩
  | register closer _ => exact .inl ⟨unaware_of_setCloser hq nofun, rfl⟩
  | readGone closer _ _ _ => exact .inl ⟨unaware_of_setCloser hq nofun, rfl⟩
  | readBusy closer _ _ hbusy => exact absurd hq.workers hbusy
  | resume closer _ => exact .inl ⟨unaware_of_setCloser hq nofun, rfl⟩
  | notify _ =>
    obtain ⟨_, _, _, heq⟩ := exists_wakeOne_eq { p with owedWakeups := p.owedWakeups - 1 }
    rw [heq] at hq ⊢
    exact .inl ⟨⟨hq.workers, hq.parked⟩, rfl⟩
  | passOn worker retires _ =>
    obtain ⟨_, _, _, heq⟩ :=
      exists_wakeOne_eq (p.setWorker worker (if retires then .exiting else .looking))
    rw [heq] at hq ⊢
    exact .inl ⟨⟨hq.workers, hq.parked⟩, rfl⟩
  | _ => exact .inl ⟨⟨hq.workers, hq.parked⟩, rfl⟩

/-- Whether the news is still owed to whoever waits for it in vain. -/
def Informs (p : Pool T) : Prop := p.Unaware → 0 < p.owedNews

theorem Informs.happens (hp : p.Informs) (h : Happens p a q) : q.Informs := by
  intro hq
  rcases h.unaware hq with ⟨hunaware, howed⟩ | ⟨-, howed⟩
  · rw [howed]
    exact hp hunaware
  · exact howed

/-- Once the news was given, nobody is unaware until another worker is struck off. -/
theorem not_unaware_of_run (h : p.run as = some q) (hnews : .announce ∈ as)
    (hstrike : ∀ worker, .strike worker ∉ as) : ¬q.Unaware := by
  obtain ⟨xs, bs, r, r', rfl, -, hnews, hbs⟩ := exists_happens_of_mem h hnews
  refine run_keeps (P := fun r => ¬r.Unaware) hbs (not_unaware_of_announce hnews)
    fun ha hstep hx hy => ?_
  rcases hstep.unaware hy with ⟨hunaware, -⟩ | ⟨⟨worker, rfl⟩, -⟩
  · exact hx hunaware
  · exact hstrike worker (List.mem_append_right xs (List.mem_cons_of_mem _ ha))

variable {name : String} {s : PoolSettings} {hosted : Bool}

theorem Reachable.informs (h : Reachable name s hosted p) : p.Informs :=
  h.rec_happens (fun hstart => absurd hstart.parked List.not_mem_nil) fun _ _ _ hp => hp.happens

/-- **No signal of a shutdown is missed.**  Take any run of a pool from the start.  Once some caller
has woken all workers, nobody is in line, no worker is parked, and every task is refused.  Once the
news has been given after the last worker was struck off, no caller is suspended without it; and
neither is one whenever there are no workers and no news is owed. -/
theorem run_shutdown_heard (h : (ofSettings name s hosted).run as = some p) :
    (∀ closer, .wakeAll closer ∈ as → p.line = [] ∧ (∀ w ∈ p.staff, w.isParked = false) ∧
      ∀ task, p.submit task = .error (.shuttingDown p.name)) ∧
    (∀ xs worker bs, as = xs ++ .strike worker :: bs → (∀ other, .strike other ∉ bs) →
      .announce ∈ bs → p.workers = 0 → Closer.parked false ∉ p.closers) ∧
    (p.workers = 0 → p.owedNews = 0 → Closer.parked false ∉ p.closers) := by
  have hp : Reachable name s hosted p := reachable_iff_run.mpr ⟨as, h⟩
  refine ⟨fun closer hmem => ?_, fun xs worker bs has hlast hnews hgone hparked => ?_,
    fun hgone hnone hparked => ?_⟩
  · obtain ⟨xs, bs, r, r', -, hr, hwake, hbs⟩ := exists_happens_of_mem h hmem
    have hfinished := (reachable_iff_run.mpr ⟨xs, hr⟩ : Reachable name s hosted r).invariant.finished
    have hhushed : p.Hushed :=
      run_keeps hbs (Hushed.of_wakeAll hfinished hwake) fun _ hstep hx => hx.happens hstep
    exact ⟨hhushed.line, hhushed.isParked_eq_false hp.invariant.lined, hhushed.submit_eq⟩
  · rw [has] at h
    obtain ⟨r, -, hrest⟩ := exists_of_run_append h
    obtain ⟨r', -, hbs⟩ := Option.bind_eq_some_iff.mp hrest
    exact not_unaware_of_run hbs hnews hlast ⟨hgone, hparked⟩
  · have howed := hp.informs ⟨hgone, hparked⟩
    rw [hnone] at howed
    exact Nat.lt_irrefl 0 howed

/-- Two workers, one of them parked and the other busy, and two callers.  Both callers are suspended
when the last worker is struck off. -/
theorem run_shutdown_heard_two :
    let start : Pool Nat := ofSettings "two" { maxWorkers := 2 } true
    let xs : List (PoolAction Nat) := [.submit 1, .submit 2, .look 0 0, .look 1 0, .finish 0,
      .look 0 0, .close, .close, .wakeAll 1, .register 1, .read 1, .wake 0, .look 0 0, .strike 0,
      .wakeAll 0, .register 0, .read 0, .finish 1, .look 1 0]
    (∃ r, start.run (xs ++ [.strike 1]) = some r ∧ r.closers = [.parked false, .parked false]) ∧
      ∃ p, start.run (xs ++ [.strike 1, .announce]) = some p ∧ p.workers = 0 ∧
        (∀ w ∈ p.staff, w.isParked = false) ∧ p.submit 3 = .error (.shuttingDown "two") ∧
        Closer.parked false ∉ p.closers := by
  intro start xs
  obtain ⟨p, hp, hname, hgone⟩ : ∃ p, start.run (xs ++ [.strike 1, .announce]) = some p ∧
      p.name = "two" ∧ p.workers = 0 := ⟨_, rfl, rfl, rfl⟩
  obtain ⟨hwoken, htold, -⟩ := run_shutdown_heard hp
  obtain ⟨-, hparked, hrefused⟩ := hwoken 1 (by simp [xs])
  refine ⟨⟨_, rfl, rfl⟩, p, hp, hgone, hparked, hname ▸ hrefused 3, ?_⟩
  exact htold xs 1 [.announce] rfl (by simp) (List.mem_singleton_self _) hgone

end Pool
end MailPolicy
