/-
How a pool comes to keep fewer workers than it may.

Whether a worker waits for good is settled when it goes idle, by the number of those that are idle
then.  It is not looked at again: not when a wake-up takes one of those that wait for good and
leaves one that does not, and not when the time of a worker is up.

* `Pool.Undercuts` — a worker retires although no more are idle than may be kept;
* `Pool.Happens.staying` — only that lets too few workers stay;
* `Pool.Capped` — nobody's wait is limited, or as many wait for good as may;
* `Pool.Slips` — an action is one of the two that lose this, and `Pool.Happens.capped_iff` says that
  no other does;
* `Pool.capped_run_iff` — **a pool is capped throughout a run exactly if nothing in the run slips**,
  and then nobody retires too early.
-/
import MailPolicy.Proofs.Pool.Headcount
import MailPolicy.Proofs.Pool.Settling

namespace MailPolicy

variable {T : Type}

namespace Worker

/-- Whether the wait of a worker is limited, or is over without a look at the queue. -/
def mayRetire : Worker T → Bool
  | parked (some _) | expired _ => true
  | _ => false

theorem stays_of_isIdle {w : Worker T} (h : w.isIdle = true) : w.stays = true := by
  cases w with
  | woken | parked due | expired heard => rfl
  | _ => cases h

end Worker

namespace Pool

variable {p q : Pool T} {a : PoolAction T} {as bs : List (PoolAction T)}

/-! ### Runs without certain actions -/

/-- Whether no action of a run is of a certain kind when its turn comes. -/
def Avoids (bad : Pool T → PoolAction T → Prop) (p : Pool T) (as : List (PoolAction T)) : Prop :=
  ∀ n r a, p.run (as.take n) = some r → as[n]? = some a → ¬bad r a

section Avoids

variable {bad : Pool T → PoolAction T → Prop}

theorem avoids_cons (hstep : p.step a = some q) :
    Avoids bad p (a :: as) ↔ ¬bad p a ∧ Avoids bad q as := by
  have hrun (n : Nat) : p.run ((a :: as).take (n + 1)) = q.run (as.take n) := by
    rw [List.take_succ_cons, run, hstep, Option.bind_some]
  constructor
  · intro h
    exact ⟨h 0 p a rfl rfl, fun n r b hr hb => h (n + 1) r b ((hrun n).trans hr) hb⟩
  · rintro ⟨hfirst, hrest⟩ n r b hr hb
    cases n with
    | zero =>
      cases hr
      cases hb
      exact hfirst
    | succ n => exact hrest n r b ((hrun n).symm.trans hr) hb

theorem Avoids.append (h : Avoids bad p (as ++ bs)) (hrun : p.run as = some q) :
    Avoids bad p as ∧ Avoids bad q bs := by
  induction as generalizing p with
  | nil =>
    obtain rfl := Option.some.inj hrun
    exact ⟨fun n r a _ ha => (by cases ha), h⟩
  | cons a rest ih =>
    obtain ⟨r, hstep, hrest⟩ := Option.bind_eq_some_iff.mp hrun
    rw [List.cons_append, avoids_cons hstep] at h
    obtain ⟨hrest', hbs⟩ := ih h.2 hrest
    exact ⟨(avoids_cons hstep).mpr ⟨h.1, hrest'⟩, hbs⟩

/-- What every action but the avoided ones keeps holds at the end of a run. -/
theorem Avoids.keeps {P : Pool T → Prop} (h : Avoids bad p as) (hrun : p.run as = some q)
    (hp : P p) (keep : ∀ {r a r'}, a ∈ as → Happens r a r' → ¬bad r a → P r → P r') : P q := by
  induction as generalizing p with
  | nil => exact Option.some.inj hrun ▸ hp
  | cons a rest ih =>
    obtain ⟨r, hstep, hrest⟩ := Option.bind_eq_some_iff.mp hrun
    obtain ⟨hfirst, hlater⟩ := (avoids_cons hstep).mp h
    exact ih hlater hrest (keep List.mem_cons_self (happens_of_step hstep) hfirst hp)
      fun hb => keep (List.mem_cons_of_mem a hb)

end Avoids

/-! ### Retiring too early -/

/-- Whether a worker retires with an action although no more are idle than may be kept. -/
def Undercuts (p : Pool T) : PoolAction T → Prop
  | .resign worker => (∃ heard, p.staff[worker]? = some (.expired heard)) ∧ p.queue = [] ∧
      p.idle ≤ p.settings.maxIdle
  | _ => False

theorem Counted.idle_le_staying (hp : p.Counted) : p.idle ≤ p.load.staying := by
  rw [hp.idle_eq]
  exact List.countP_mono_left fun _ _ => Worker.stays_of_isIdle

/-- What a step does to the workers that stay: a submit may add one, and one that retires leaves as
many as may be kept, unless it retires too early. -/
theorem Happens.staying (h : Happens p a q) (hopen : p.Open) (hcounted : p.Counted)
    (ha : a.isCalm = true) (hkeep : ¬p.Undercuts a) :
    (q.workers ≤ p.workers ∧
        (p.load.staying ≤ q.load.staying ∨ p.settings.maxIdle ≤ q.load.staying)) ∨
      a.isQuiet = false ∧ q.workers = p.workers + 1 ∧ q.load.staying = p.load.staying + 1 := by
  have hsame {q : Pool T} (hworkers : q.workers ≤ p.workers) (hload : q.load = p.load) :
      (q.workers ≤ p.workers ∧
          (p.load.staying ≤ q.load.staying ∨ p.settings.maxIdle ≤ q.load.staying)) ∨
        a.isQuiet = false ∧ q.workers = p.workers + 1 ∧ q.load.staying = p.load.staying + 1 :=
    .inl ⟨hworkers, .inl (Nat.le_of_eq (congrArg Load.staying hload.symm))⟩
  cases h with
  | hire task _ _ _ _ => exact .inr ⟨rfl, rfl, List.countP_append ..⟩
  | accept task _ _ _ => exact .inl ⟨Nat.le_refl _, .inl (Nat.le_refl _)⟩
  | notify _ => exact hsame (Nat.le_of_eq (workers_wakeOne _)) (load_wakeOne _)
  | take worker now task rest hw hqueue =>
    obtain ⟨-, hstaying⟩ := load_of_set (q :=
      { p.setWorker worker (.running task) with queue := rest, handed := p.handed ++ [task] }) hw rfl
    exact .inl ⟨Nat.le_refl _, .inl (Nat.le_of_eq (Nat.add_right_cancel hstaying).symm)⟩
  | finish worker task hw =>
    obtain ⟨-, hstaying⟩ := load_of_set (q := p.setWorker worker .looking) hw rfl
    exact .inl ⟨Nat.le_refl _, .inl (Nat.le_of_eq (Nat.add_right_cancel hstaying).symm)⟩
  | resign worker heard hw =>
    cases hqueue : p.queue with
    | nil =>
      -- More are idle than may be kept, and whoever is idle stays but for this worker.
      have hmany : p.settings.maxIdle < p.idle :=
        Nat.lt_of_not_le fun hfew => hkeep ⟨⟨heard, hw⟩, hqueue, hfew⟩
      have hstays := hcounted.idle_le_staying
      obtain ⟨-, hstaying⟩ := load_of_set (q :=
        { p.setWorker worker (.withdrawing true heard) with idle := p.idle - 1 }) hw rfl
      change _ + 1 = p.load.staying at hstaying
      have hmore := Nat.lt_of_lt_of_le hmany (Nat.le_trans hstays (Nat.le_of_eq hstaying.symm))
      exact .inl ⟨Nat.le_refl _, .inr (Nat.le_of_lt_succ hmore)⟩
    | cons task rest => exact hsame (Nat.le_refl _) (load_eq_of_set hw rfl rfl rfl rfl)
  | withdraw worker retires hw | withdrawWoken worker retires hw =>
    cases retires <;> exact hsame (Nat.le_refl _) (load_eq_of_set hw rfl rfl rfl rfl)
  | passOn worker retires hw =>
    refine hsame (Nat.le_of_eq (workers_wakeOne _)) ((load_wakeOne _).trans ?_)
    cases retires <;> exact load_eq_of_set hw rfl rfl rfl rfl
  | strike worker hw => exact hsame (Nat.sub_le _ _) (load_eq_of_set hw rfl rfl rfl rfl)
  | parkWoken worker now hw _ _ _ => exact hsame (Nat.le_refl _) (load_eq_of_set hw rfl rfl rfl rfl)
  | park worker now due hw _ _ _ _ => exact hsame (Nat.le_refl _) (load_eq_of_set hw rfl rfl rfl rfl)
  | wake worker hw => exact hsame (Nat.le_refl _) (load_eq_of_set hw rfl rfl rfl rfl)
  | expire worker now due hw _ => exact hsame (Nat.le_refl _) (load_eq_of_set hw rfl rfl rfl rfl)
  | announce _ => exact hsame (Nat.le_refl _) rfl
  | leave _ _ _ _ hclosed => exact absurd (hopen.closed.symm.trans hclosed) Bool.false_ne_true
  | panic _ _ _ | close => cases ha
  | wakeAll _ hc | register _ hc | readGone _ _ hc _ | readBusy _ _ hc _ | resume _ hc =>
    exact absurd hc hopen.getElem?_ne

/-! ### Waiting for good -/

/-- How many workers may retire when their time is up. -/
def limited (p : Pool T) : Nat := p.staff.countP Worker.mayRetire

/-- Whether nobody may retire, or as many wait for good as may. -/
def Capped (p : Pool T) : Prop := p.limited = 0 ∨ p.retained = p.settings.maxIdle

/-- Whether the next to be woken waits for good while others may retire. -/
def RousesKept (p : Pool T) : Prop :=
  0 < p.limited ∧ ∃ worker rest, p.line = worker :: rest ∧ p.staff[worker]? = some (.parked none)

/-- Whether an action leaves workers that may retire while fewer than may wait for good: it wakes
one of the latter, or limits the wait of a worker that goes idle beside workers that have been woken
and still count as idle. -/
def Slips (p : Pool T) : PoolAction T → Prop
  | .notify => p.RousesKept
  | .withdraw worker =>
    (∃ retires, p.staff[worker]? = some (.withdrawing retires (some .one))) ∧ p.RousesKept
  | .look _ _ => p.queue = [] ∧ p.permit = false ∧ p.settings.maxIdle ≤ p.idle ∧
      p.retained < p.settings.maxIdle
  | _ => False

/-- The counts of workers that may retire and of those that wait for good when one changes. -/
theorem counts_of_set {worker : Nat} {w v : Worker T} (hw : p.staff[worker]? = some w)
    (hstaff : q.staff = p.staff.set worker v) :
    q.limited + w.mayRetire.toNat = p.limited + v.mayRetire.toNat ∧
      q.retained + w.waitsForGood.toNat = p.retained + v.waitsForGood.toNat := by
  refine ⟨?_, retained_of_set hw hstaff⟩
  rw [limited, hstaff]
  exact countP_set_add Worker.mayRetire v hw

theorem counts_eq_of_set {worker : Nat} {w v : Worker T} (hw : p.staff[worker]? = some w)
    (hstaff : q.staff = p.staff.set worker v) (hmay : v.mayRetire = w.mayRetire)
    (hgood : v.waitsForGood = w.waitsForGood) :
    q.limited = p.limited ∧ q.retained = p.retained := by
  obtain ⟨hlimited, hretained⟩ := counts_of_set hw hstaff
  rw [hmay] at hlimited
  rw [hgood] at hretained
  exact ⟨Nat.add_right_cancel hlimited, Nat.add_right_cancel hretained⟩

theorem Capped.of_counts (hp : p.Capped) (hcounts : q.limited = p.limited ∧ q.retained = p.retained)
    (hsettings : q.settings = p.settings) : q.Capped := by
  rw [Capped, hcounts.1, hcounts.2, hsettings]
  exact hp

/-- A worker that may retire is there besides those that wait for good. -/
theorem Counted.retained_lt_idle (hp : p.Counted) {worker : Nat} {heard : Option Wakeup}
    (hw : p.staff[worker]? = some (.expired heard)) : p.retained < p.idle := by
  have hidle := countP_set_add Worker.isIdle .gone hw
  have hgood := countP_set_add Worker.waitsForGood .gone hw
  have hle : (p.staff.set worker .gone).countP Worker.waitsForGood ≤
      (p.staff.set worker .gone).countP Worker.isIdle :=
    List.countP_mono_left fun _ _ => Worker.isIdle_of_waitsForGood
  change _ + 0 = p.retained + 0 at hgood
  change _ + 1 = _ + 0 at hidle
  rw [hp.idle_eq]
  omega

/-- While a pool is capped nobody retires too early. -/
theorem Capped.not_undercuts (hp : p.Capped) (hcounted : p.Counted) : ¬p.Undercuts a := by
  intro hunder
  cases a with
  | resign worker =>
    obtain ⟨⟨heard, hw⟩, -, hfew⟩ := hunder
    have hmore := hcounted.retained_lt_idle hw
    have hmay : 1 ≤ p.limited := toNat_le_countP Worker.mayRetire hw
    rcases hp with hnone | hall
    · omega
    · omega
  | _ => exact hunder

/-- Waking the next one keeps a pool capped unless that one waits for good beside others that may
retire. -/
theorem capped_wakeOne_iff (hp : p.Capped) (hlined : p.Lined) (hbounded : p.Bounded) :
    p.wakeOne.Capped ↔ ¬p.RousesKept := by
  cases hline : p.line with
  | nil =>
    rw [wakeOne_of_nil hline]
    refine iff_of_true hp ?_
    rintro ⟨-, worker, rest, hcons, -⟩
    rw [hline] at hcons
    cases hcons
  | cons worker rest =>
    obtain ⟨w, hw, hin⟩ := standsInLine_iff.mp ((hlined.mem_line_iff worker).mp (hline ▸ List.mem_cons_self))
    have hkept : p.RousesKept ↔ 0 < p.limited ∧ w = .parked none := by
      constructor
      · rintro ⟨hsome, first, _, hcons, hfirst⟩
        rw [hline] at hcons
        obtain ⟨rfl, -⟩ := List.cons.inj hcons
        exact ⟨hsome, Option.some.inj (hw.symm.trans hfirst)⟩
      · rintro ⟨hsome, rfl⟩
        exact ⟨hsome, worker, rest, hline, hw⟩
    rw [hkept, wakeOne_of_cons hline, modify_eq_set _ hw]
    obtain ⟨hlimited, hretained⟩ := counts_of_set (q :=
      { p with line := rest, staff := p.staff.set worker (w.hear .one) }) hw rfl
    unfold Bounded at hbounded
    unfold Capped at hp ⊢
    -- Only a worker that is parked is counted otherwise when it has been woken.
    cases w with
    | parked due =>
      cases due with
      | none =>
        change _ + 0 = p.limited + 0 at hlimited
        change _ + 1 = p.retained + 0 at hretained
        constructor
        · rintro hq ⟨hsome, -⟩
          dsimp only at hq
          omega
        · intro hnone
          refine .inl ?_
          have hzero : ¬0 < p.limited := fun hsome => hnone ⟨hsome, rfl⟩
          omega
      | some due =>
        change _ + 1 = p.limited + 0 at hlimited
        change _ + 0 = p.retained + 0 at hretained
        refine iff_of_true (.inr ?_) fun h => nomatch h.2
        dsimp only
        omega
    | expired heard | withdrawing retires heard =>
      cases heard with
      | some how => cases hin
      | none =>
        refine iff_of_true ?_ fun h => nomatch h.2
        rw [Nat.add_right_cancel hlimited, Nat.add_right_cancel hretained]
        exact hp
    | _ => cases hin

/-- What holds of every reachable pool and is needed to follow those that wait for good. -/
structure Watched (p : Pool T) : Prop where
  invariant : p.Invariant
  bounded : p.Bounded

theorem Watched.happens (hp : p.Watched) (h : Happens p a q) : q.Watched :=
  ⟨hp.invariant.happens h, hp.bounded.happens hp.invariant.counted h⟩

/-- A worker that goes idle beside those that wait for good keeps the pool capped unless its wait is
limited and more could wait for good. -/
theorem capped_park_iff (hp : p.Capped) (hwatched : p.Watched) {worker : Nat} {due : Option Nat}
    (now : Nat) (hw : p.staff[worker]? = some .looking)
    (hdue : due = if p.nextIsBounded then some (now + p.settings.idleTimeout) else none) :
    ({ p.setWorker worker (.parked due) with
        idle := p.idle + 1, line := p.line ++ [worker] } : Pool T).Capped ↔
      ¬(p.settings.maxIdle ≤ p.idle ∧ p.retained < p.settings.maxIdle) := by
  obtain ⟨hlimited, hretained⟩ := counts_of_set (q := { p.setWorker worker (.parked due) with
    idle := p.idle + 1, line := p.line ++ [worker] }) hw rfl
  have hless := hwatched.invariant.counted.retained_le_idle
  have hmost : p.retained ≤ p.settings.maxIdle := hwatched.bounded
  unfold Capped at hp ⊢
  show (_ ∨ _ = p.settings.maxIdle) ↔ _
  by_cases hbounded : p.nextIsBounded = true
  · rw [if_pos hbounded] at hdue
    rw [nextIsBounded, decide_eq_true_eq] at hbounded
    subst hdue
    change _ + 0 = p.limited + 1 at hlimited
    change _ + 0 = p.retained + 0 at hretained
    dsimp only at hlimited hretained ⊢
    omega
  · rw [if_neg hbounded] at hdue
    rw [nextIsBounded, decide_eq_true_eq] at hbounded
    subst hdue
    change _ + 0 = p.limited + 0 at hlimited
    change _ + 0 = p.retained + 1 at hretained
    dsimp only at hlimited hretained ⊢
    omega

/-- A worker that passes its wake-up on is not the one that is woken. -/
theorem rousesKept_setWorker {worker : Nat} {w v : Worker T} (hw : p.staff[worker]? = some w)
    (hmay : v.mayRetire = w.mayRetire) (hwgood : w.waitsForGood = false)
    (hvgood : v.waitsForGood = false) : (p.setWorker worker v).RousesKept ↔ p.RousesKept := by
  have hlt := (List.getElem?_eq_some_iff.mp hw).1
  have hlimited : (p.setWorker worker v).limited = p.limited := by
    have hset := countP_set_add Worker.mayRetire v hw
    rw [hmay] at hset
    exact Nat.add_right_cancel hset
  have hfirst (first : Nat) : (p.staff.set worker v)[first]? = some (.parked none) ↔
      p.staff[first]? = some (.parked none) := by
    have hne {w : Worker T} (hgood : w.waitsForGood = false) : some w ≠ some (.parked none) := by
      rintro ⟨⟩
      cases hgood
    by_cases heq : worker = first
    · rw [← heq, List.getElem?_set_self hlt, hw]
      exact iff_of_false (hne hvgood) (hne hwgood)
    · rw [List.getElem?_set_ne heq]
  refine and_congr (iff_of_eq (congrArg (0 < ·) hlimited)) ?_
  exact exists_congr fun first => exists_congr fun rest => and_congr_right fun _ => hfirst first

/-- A step of a pool that is left open keeps it capped, or slips. -/
theorem Happens.capped_iff (h : Happens p a q) (hp : p.Capped) (hwatched : p.Watched)
    (hopen : p.Open) (ha : a.isCalm = true) : q.Capped ↔ ¬p.Slips a := by
  have hkeeps {q : Pool T} (hcounts : q.limited = p.limited ∧ q.retained = p.retained)
      (hsettings : q.settings = p.settings) (hslips : ¬p.Slips a) : q.Capped ↔ ¬p.Slips a :=
    iff_of_true (hp.of_counts hcounts hsettings) hslips
  have hlined := hwatched.invariant.lined
  cases h with
  | hire task _ _ _ _ => exact hkeeps ⟨List.countP_append .., List.countP_append ..⟩ rfl id
  | accept _ _ _ _ | announce _ => exact hkeeps ⟨rfl, rfl⟩ rfl id
  | notify _ =>
    exact capped_wakeOne_iff (p := { p with owedWakeups := p.owedWakeups - 1 }) hp
      ⟨hlined.nodup, hlined.mem_line_iff, hlined.line_of_permit⟩ hwatched.bounded
  | passOn worker retires hw =>
    have hcounts : (p.setWorker worker (if retires then .exiting else .looking)).limited = p.limited ∧
        (p.setWorker worker (if retires then .exiting else .looking)).retained = p.retained := by
      cases retires <;> exact counts_eq_of_set hw rfl rfl rfl
    have hlined' : (p.setWorker worker (if retires then .exiting else .looking)).Lined := by
      cases retires <;> exact hlined.set _ hw rfl rfl rfl id
    have hbounded : (p.setWorker worker (if retires then .exiting else .looking)).Bounded := by
      rw [Bounded, hcounts.2]
      exact hwatched.bounded
    have hkept : (p.setWorker worker (if retires then .exiting else .looking)).RousesKept ↔
        p.RousesKept := by
      cases retires <;> exact rousesKept_setWorker hw rfl rfl rfl
    rw [capped_wakeOne_iff (hp.of_counts hcounts rfl) hlined' hbounded, hkept]
    exact not_congr ⟨fun h => ⟨⟨retires, hw⟩, h⟩, And.right⟩
  | take worker now task rest hw hqueue =>
    refine hkeeps (counts_eq_of_set hw rfl rfl rfl) rfl fun hslips => ?_
    have hempty := hslips.1
    rw [hqueue] at hempty
    cases hempty
  | leave _ _ _ _ hclosed => exact absurd (hopen.closed.symm.trans hclosed) Bool.false_ne_true
  | parkWoken worker now hw _ _ hpermit =>
    refine hkeeps (counts_eq_of_set hw rfl rfl rfl) rfl fun hslips => ?_
    exact Bool.false_ne_true (hslips.2.1.symm.trans hpermit)
  | park worker now due hw hqueue _ hpermit hdue =>
    rw [capped_park_iff hp hwatched now hw hdue]
    exact not_congr ⟨fun h => ⟨hqueue, hpermit, h⟩, fun h => h.2.2⟩
  | finish worker task hw => exact hkeeps (counts_eq_of_set hw rfl rfl rfl) rfl id
  | wake worker hw => exact hkeeps (counts_eq_of_set hw rfl rfl rfl) rfl id
  | expire worker now due hw _ => exact hkeeps (counts_eq_of_set hw rfl rfl rfl) rfl id
  | resign worker heard hw =>
    -- One worker less may retire, and all that may wait for good do.
    obtain ⟨hlimited, hretained⟩ := counts_of_set (q := { p.setWorker worker
      (.withdrawing p.queue.isEmpty heard) with idle := p.idle - 1 }) hw rfl
    change _ + 1 = p.limited + 0 at hlimited
    change _ + 0 = p.retained + 0 at hretained
    refine iff_of_true (.inr (hretained.trans ?_)) id
    exact hp.resolve_left (by omega)
  | withdraw worker retires hw | withdrawWoken worker retires hw =>
    refine hkeeps ?_ rfl fun hslips => ?_
    · cases retires <;> exact counts_eq_of_set hw rfl rfl rfl
    · obtain ⟨⟨_, hother⟩, -⟩ := hslips
      cases hw.symm.trans hother
  | strike worker hw => exact hkeeps (counts_eq_of_set hw rfl rfl rfl) rfl id
  | panic _ _ _ | close => cases ha
  | wakeAll _ hc | register _ hc | readGone _ _ hc _ | readBusy _ _ hc _ | resume _ hc =>
    exact absurd hc hopen.getElem?_ne

/-! ### Runs -/

/-- A pool stays capped in a run without panics and shutdowns as long as nothing slips, and no
longer. -/
theorem capped_run_iff (hp : p.Capped) (hwatched : p.Watched) (hopen : p.Open)
    (hcalm : ∀ a ∈ as, PoolAction.isCalm a = true) (hrun : p.run as = some q) :
    (∀ n r, p.run (as.take n) = some r → r.Capped) ↔ Avoids Slips p as := by
  -- The first action keeps the pool capped or slips; the rest is a run from where it leads.
  induction as generalizing p with
  | nil =>
    refine iff_of_true (fun n r hr => ?_) fun n r a _ ha => by cases ha
    rw [List.take_nil] at hr
    exact Option.some.inj hr ▸ hp
  | cons a rest ih =>
    obtain ⟨p', hstep, hrest⟩ := Option.bind_eq_some_iff.mp hrun
    have hhappens := happens_of_step hstep
    have ha := hcalm a List.mem_cons_self
    have hfirst := hhappens.capped_iff hp hwatched hopen ha
    have hlater (hp' : p'.Capped) := ih hp' (hwatched.happens hhappens) (hopen.happens hhappens ha)
      (fun b hb => hcalm b (List.mem_cons_of_mem a hb)) hrest
    have hsucc (n : Nat) : p.run ((a :: rest).take (n + 1)) = p'.run (rest.take n) := by
      rw [List.take_succ_cons, run, hstep, Option.bind_some]
    rw [avoids_cons hstep]
    constructor
    · intro hall
      have hp' : p'.Capped := hall 1 p' (hsucc 0)
      exact ⟨hfirst.mp hp', (hlater hp').mp fun n r hr => hall (n + 1) r ((hsucc n).trans hr)⟩
    · rintro ⟨hkeeps, havoids⟩ n r hr
      cases n with
      | zero => exact Option.some.inj hr ▸ hp
      | succ n => exact (hlater (hfirst.mpr hkeeps)).mpr havoids n r ((hsucc n).symm.trans hr)

/-- Where nothing slips nobody retires too early. -/
theorem Avoids.not_undercuts (h : Avoids Slips p as) (hp : p.Capped) (hwatched : p.Watched)
    (hopen : p.Open) (hcalm : ∀ a ∈ as, PoolAction.isCalm a = true) (hrun : p.run as = some q) :
    Avoids Undercuts p as := by
  intro n r a hr _
  have hcapped := (capped_run_iff hp hwatched hopen hcalm hrun).mpr h n r hr
  have hcounted := (run_keeps hr hwatched fun _ hstep hx => hx.happens hstep).invariant.counted
  exact hcapped.not_undercuts hcounted

/-- Where nobody retires too early the workers that stay are all there are, or as many as may be
kept. -/
theorem Avoids.min_le_staying (h : Avoids Undercuts p as) (hopen : p.Open) (hwatched : p.Watched)
    (hcalm : ∀ a ∈ as, PoolAction.isCalm a = true) (hrun : p.run as = some q)
    (hp : min p.workers p.settings.maxIdle ≤ p.load.staying) :
    min q.workers q.settings.maxIdle ≤ q.load.staying := by
  refine (h.keeps (P := fun r => r.Open ∧ r.Watched ∧
    min r.workers r.settings.maxIdle ≤ r.load.staying) hrun ⟨hopen, hwatched, hp⟩ ?_).2.2
  rintro r a r' ha hstep hkeeps ⟨hopen, hwatched, hr⟩
  have hcalm := hcalm a ha
  refine ⟨hopen.happens hstep hcalm, hwatched.happens hstep, ?_⟩
  rw [hstep.fixed.1]
  rcases hstep.staying hopen hwatched.invariant.counted hcalm hkeeps with
    ⟨hworkers, hstays⟩ | ⟨-, hworkers, hstays⟩ <;> omega

/-- And while a pool is left alone they do not fall below that. -/
theorem Avoids.min_le_staying_of_quiet (h : Avoids Undercuts p bs) (hopen : p.Open)
    (hwatched : p.Watched) (hquiet : ∀ b ∈ bs, PoolAction.isQuiet b = true)
    (hrun : p.run bs = some q) {n : Nat} (hp : min n p.settings.maxIdle ≤ p.load.staying) :
    min n p.settings.maxIdle ≤ q.load.staying := by
  refine (h.keeps (P := fun r => r.Open ∧ r.Watched ∧ r.settings = p.settings ∧
    min n p.settings.maxIdle ≤ r.load.staying) hrun ⟨hopen, hwatched, rfl, hp⟩ ?_).2.2.2
  rintro r b r' hb hstep hkeeps ⟨hopen, hwatched, hsettings, hstaying⟩
  have hquiet := hquiet b hb
  have hcalm := PoolAction.isCalm_of_isQuiet hquiet
  refine ⟨hopen.happens hstep hcalm, hwatched.happens hstep, hstep.fixed.1.trans hsettings, ?_⟩
  rcases hstep.staying hopen hwatched.invariant.counted hcalm hkeeps with
    ⟨-, hstays⟩ | ⟨hloud, -⟩
  · rw [hsettings] at hstays
    omega
  · rw [hquiet] at hloud
    cases hloud

end Pool
end MailPolicy
