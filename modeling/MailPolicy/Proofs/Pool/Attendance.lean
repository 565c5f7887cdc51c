/-
Whether somebody will look at the queue.

While tasks are queued some worker should come to look at the queue: one that runs a task, is
about to look or has yet to notice that it was woken or that its time is up, or one that is parked
while a wake-up is on its way.  There are two ways to lose the last such worker.  A handler that
panics takes its worker with it, and nobody looks at the queue behind it; and a worker that is
leaving still counts as one of those there are, so that a task can be accepted for which there is
nobody.

* `Pool.Attended` — the queue is empty, or some worker will look at it;
* `Pool.Abandons` — an action is one of the two that lose the last worker;
* `Pool.Attended.happens` — every other action keeps the queue attended;
* `Pool.run_attended_iff` — in a run from the start the queue is attended throughout, and empty
  when a shutdown is over, exactly if no action of the run abandons it.
-/
import Mathlib.Data.List.Induction
import MailPolicy.Proofs.Pool.Invariant

namespace MailPolicy

variable {T : Type}

/-! ### Lists with some worker -/

section Lists

variable {α : Type} {l : List α} {i : Nat} {x y : α} {f : α → Bool}

theorem mem_set_of_ne (y : α) {z : α} (hx : l[i]? = some x) (hne : x ≠ z) (h : z ∈ l) :
    z ∈ l.set i y := by
  obtain ⟨j, hj⟩ := List.mem_iff_getElem?.mp h
  have hij : i ≠ j := by
    rintro rfl
    exact hne (Option.some.inj (hx.symm.trans hj))
  exact List.mem_of_getElem? ((List.getElem?_set_ne hij).trans hj)

theorem any_set_self (hx : l[i]? = some x) (hy : f y = true) : (l.set i y).any f = true := by
  obtain ⟨hlt, -⟩ := List.getElem?_eq_some_iff.mp hx
  exact List.any_eq_true.mpr ⟨y, List.mem_of_getElem? (List.getElem?_set_self hlt), hy⟩

/-- An element without a property can be exchanged for any other. -/
theorem any_set (y : α) (hx : l[i]? = some x) (hfx : f x = false) (h : l.any f = true) :
    (l.set i y).any f = true := by
  obtain ⟨z, hz, hfz⟩ := List.any_eq_true.mp h
  have hne : x ≠ z := by
    rintro rfl
    rw [hfx] at hfz
    cases hfz
  exact List.any_eq_true.mpr ⟨z, mem_set_of_ne y hx hne hz, hfz⟩

theorem exists_of_any_set (h : (l.set i y).any f = true) (hy : f y = false) :
    ∃ j z, j ≠ i ∧ l[j]? = some z ∧ f z = true := by
  obtain ⟨z, hz, hfz⟩ := List.any_eq_true.mp h
  obtain ⟨j, hj⟩ := List.mem_iff_getElem?.mp hz
  rcases eq_or_ne i j with rfl | hne
  · have hmem : z = y := by
      have hlt := (List.getElem?_eq_some_iff.mp hj).1
      rw [List.length_set] at hlt
      rw [List.getElem?_set_self hlt] at hj
      exact (Option.some.inj hj).symm
    rw [hmem, hy] at hfz
    cases hfz
  · rw [List.getElem?_set_ne hne] at hj
    exact ⟨j, z, hne.symm, hj, hfz⟩

theorem any_modify {g : α → α} (hg : ∀ x, f x = true → f (g x) = true) (i : Nat)
    (h : l.any f = true) :
    (l.modify i g).any f = true := by
  obtain ⟨z, hz, hfz⟩ := List.any_eq_true.mp h
  obtain ⟨j, hj⟩ := List.mem_iff_getElem?.mp hz
  have hmodify := List.getElem?_modify g i l j
  rw [hj, Option.map_eq_map, Option.map_some] at hmodify
  refine List.any_eq_true.mpr ⟨_, List.mem_of_getElem? hmodify, ?_⟩
  by_cases hi : i = j
  · rw [if_pos hi]
    exact hg z hfz
  · rw [if_neg hi]
    exact hfz

theorem any_modify_self {g : α → α} (hx : l[i]? = some x) (h : f (g x) = true) :
    (l.modify i g).any f = true := by
  have hmodify := List.getElem?_modify g i l i
  rw [hx, Option.map_eq_map, Option.map_some, if_pos rfl] at hmodify
  exact List.any_eq_true.mpr ⟨_, List.mem_of_getElem? hmodify, h⟩

end Lists

/-! ### Workers -/

namespace Worker

/-- Whether a worker will look at a queue with tasks in it of its own accord. -/
def attends : Worker T → Bool
  | looking | running _ | woken | expired _ | withdrawing false _ => true
  | _ => false

/-- Whether a worker waits for a wake-up. -/
def isParked : Worker T → Bool
  | parked _ => true
  | _ => false

/-- Whether a worker has a wake-up to pass on. -/
def holdsWakeup : Worker T → Bool
  | expired (some .one) | withdrawing _ (some .one) => true
  | _ => false

theorem isInLine_of_isParked {w : Worker T} (h : w.isParked = true) : w.isInLine = true := by
  cases w <;> first | rfl | cases h

theorem attends_hear (how : Wakeup) {w : Worker T} (h : w.attends = true) :
    (w.hear how).attends = true := by
  rcases w with _ | _ | _ | _ | (_ | _) | ⟨_ | _, _ | _⟩ | _ | _ <;> first | rfl | cases h

/-- Whoever is in line either comes to look when it is woken, or has the wake-up to pass on. -/
theorem attends_or_holdsWakeup_hear {w : Worker T} (h : w.isInLine = true) :
    (w.hear .one).attends = true ∨ w.isParked = false ∧ (w.hear .one).holdsWakeup = true := by
  rcases w with _ | _ | _ | _ | (_ | _) | ⟨_ | _, _ | _⟩ | _ | _
  all_goals first | exact .inl rfl | exact .inr ⟨rfl, rfl⟩ | cases h

end Worker

namespace Pool

variable {p q : Pool T} {a : PoolAction T}

/-! ### Attendance -/

/-- Whether a wake-up is on its way: an accepted task owes it, a worker passes it on, or a
shutdown gives it. -/
def WakeupComes (p : Pool T) : Prop :=
  0 < p.owedWakeups ∨ p.staff.any Worker.holdsWakeup = true ∨ Closer.closing ∈ p.closers

/-- Whether some worker will look at the queue. -/
def Covered (p : Pool T) : Prop :=
  p.staff.any Worker.attends = true ∨ p.staff.any Worker.isParked = true ∧ p.WakeupComes

/-- Whether no task waits for nobody. -/
def Attended (p : Pool T) : Prop := p.queue = [] ∨ p.Covered

/-- Whether an action leaves tasks behind for which nobody will come: a task is accepted without a
new worker while all workers are leaving, or a handler panics in the last worker that would have
looked at the queue. -/
def Abandons (p : Pool T) : PoolAction T → Prop
  | .submit _ => p.wantsWorker = false ∧ ∀ w ∈ p.staff, w.attends = false ∧ w.isParked = false
  | .panic worker => p.queue ≠ [] ∧
      (∀ i w, i ≠ worker → p.staff[i]? = some w → w.attends = false) ∧
      (p.staff.any Worker.isParked = true → ¬p.WakeupComes)
  | _ => False

/-- A worker that would not have come may do anything. -/
theorem Covered.set (h : p.Covered) {worker : Nat} {w : Worker T} (v : Worker T)
    (hw : p.staff[worker]? = some w)
    (hattends : w.attends = false) (hparked : w.isParked = false) (hholds : w.holdsWakeup = false)
    (hstaff : q.staff = p.staff.set worker v) (howed : q.owedWakeups = p.owedWakeups)
    (hclosers : q.closers = p.closers) : q.Covered := by
  rcases h with hany | ⟨hany, hcomes⟩
  · left
    rw [hstaff]
    exact any_set v hw hattends hany
  · right
    rw [WakeupComes, hstaff, howed, hclosers]
    exact ⟨any_set v hw hparked hany, hcomes.imp_right (Or.imp_left (any_set v hw hholds))⟩

/-- Waking one covers the queue if there is anyone to be woken or to come anyway. -/
theorem covered_wakeOne (hp : p.Lined)
    (h : p.staff.any Worker.attends = true ∨ p.staff.any Worker.isParked = true) :
    p.wakeOne.Covered := by
  cases hline : p.line with
  | nil =>
    rw [wakeOne_of_nil hline]
    rcases h with hany | hany
    · exact .inl hany
    · -- A parked worker is in line.
      exfalso
      obtain ⟨w, hw, hparked⟩ := List.any_eq_true.mp hany
      obtain ⟨i, hi⟩ := List.mem_iff_getElem?.mp hw
      have hmem : i ∈ p.line := by
        rw [hp.mem_line_iff, standsInLine_iff]
        exact ⟨w, hi, Worker.isInLine_of_isParked hparked⟩
      rw [hline] at hmem
      exact List.not_mem_nil hmem
  | cons worker rest =>
    have hfirst := (hp.mem_line_iff worker).mp (hline ▸ List.mem_cons_self)
    obtain ⟨w, hw, hinLine⟩ := standsInLine_iff.mp hfirst
    rw [wakeOne_of_cons hline]
    rcases h with hany | hany
    · exact .inl (any_modify (f := Worker.attends) (fun _ => Worker.attends_hear .one) worker hany)
    · rcases Worker.attends_or_holdsWakeup_hear hinLine with hcomes | ⟨hother, hholds⟩
      · exact .inl (any_modify_self hw hcomes)
      · -- The first in line is leaving; the parked one is another and still gets the wake-up.
        refine .inr ⟨?_, .inr (.inl (any_modify_self hw hholds))⟩
        obtain ⟨v, hv, hparked⟩ := List.any_eq_true.mp hany
        obtain ⟨i, hi⟩ := List.mem_iff_getElem?.mp hv
        have hne : worker ≠ i := by
          rintro rfl
          obtain rfl := Option.some.inj (hw.symm.trans hi)
          rw [hother] at hparked
          cases hparked
        have hmodify := List.getElem?_modify (Worker.hear .one) worker p.staff i
        rw [hi, Option.map_eq_map, Option.map_some, if_neg hne] at hmodify
        exact List.any_eq_true.mpr ⟨v, List.mem_of_getElem? hmodify, hparked⟩

/-- Waking everyone in line keeps those that come. -/
theorem any_attends_foldl_hear (line : List Nat) {staff : List (Worker T)}
    (h : staff.any Worker.attends = true) :
    (line.foldl (fun staff worker => staff.modify worker (.hear .all)) staff).any Worker.attends =
      true := by
  induction line generalizing staff with
  | nil => exact h
  | cons worker rest ih =>
    exact ih (any_modify (f := Worker.attends) (fun _ => Worker.attends_hear .all) worker h)

/-- Waking everyone in line makes each of them come that is parked. -/
theorem any_attends_foldl_hear_of_parked {line : List Nat} {staff : List (Worker T)} {i : Nat}
    {w : Worker T}
    (hi : i ∈ line) (hw : staff[i]? = some w) (hparked : w.isParked = true) :
    (line.foldl (fun staff worker => staff.modify worker (.hear .all)) staff).any Worker.attends =
      true := by
  induction line generalizing staff with
  | nil => exact absurd hi List.not_mem_nil
  | cons worker rest ih =>
    rw [List.foldl_cons]
    by_cases heq : i = worker
    · refine any_attends_foldl_hear rest (any_modify_self (heq ▸ hw) ?_)
      cases w <;> cases hparked
      rfl
    · have hmodify := List.getElem?_modify (Worker.hear .all) worker staff i
      rw [hw, Option.map_eq_map, Option.map_some, if_neg (Ne.symm heq)] at hmodify
      exact ih ((List.mem_cons.mp hi).resolve_left heq) hmodify

theorem any_attends_wakeLine (hp : p.Lined)
    (h : p.staff.any Worker.attends = true ∨ p.staff.any Worker.isParked = true) :
    p.wakeLine.staff.any Worker.attends = true := by
  rcases h with hany | hany
  · exact any_attends_foldl_hear p.line hany
  · obtain ⟨w, hw, hparked⟩ := List.any_eq_true.mp hany
    obtain ⟨i, hi⟩ := List.mem_iff_getElem?.mp hw
    refine any_attends_foldl_hear_of_parked ?_ hi hparked
    rw [hp.mem_line_iff, standsInLine_iff]
    exact ⟨w, hi, Worker.isInLine_of_isParked hparked⟩

/-- A change among those who called for a shutdown, with no wake-up given up. -/
theorem Attended.of_closers (hp : p.Attended) (hqueue : q.queue = p.queue)
    (hstaff : q.staff = p.staff)
    (howed : q.owedWakeups = p.owedWakeups)
    (hclosing : Closer.closing ∈ p.closers → Closer.closing ∈ q.closers) :
    q.Attended := by
  rw [Attended, Covered, WakeupComes, hqueue, hstaff, howed]
  exact hp.imp_right (Or.imp_right (And.imp_right (Or.imp_right (Or.imp_right hclosing))))

/-! ### One step -/

/-- Whatever happens without abandoning the queue keeps it attended. -/
theorem Attended.happens (hp : p.Attended) (hinv : p.Invariant) (h : Happens p a q)
    (hkeep : ¬p.Abandons a) :
    q.Attended := by
  -- A worker that comes to look, whatever it was before.
  have hcomes {worker : Nat} {w v : Worker T} (hw : p.staff[worker]? = some w)
    (hv : v.attends = true) :
      (p.staff.set worker v).any Worker.attends = true := any_set_self hw hv
  cases h with
  | hire task _ _ _ _ =>
    refine .inr (.inl ?_)
    show (p.staff ++ [Worker.looking]).any Worker.attends = true
    rw [List.any_append]
    exact Bool.or_eq_true_iff.mpr (.inr rfl)
  | accept task _ _ hwants =>
    -- Some worker is not leaving: it comes anyway, or is parked and gets the wake-up that is owed now.
    have hstays : ∃ w ∈ p.staff, w.attends = true ∨ w.isParked = true := by
      by_contra hnone
      refine hkeep ⟨hwants, fun w hw => ?_⟩
      constructor
      · exact Bool.eq_false_iff.mpr fun h => hnone ⟨w, hw, .inl h⟩
      · exact Bool.eq_false_iff.mpr fun h => hnone ⟨w, hw, .inr h⟩
    obtain ⟨w, hw, hattends | hparked⟩ := hstays
    · exact .inr (.inl (List.any_eq_true.mpr ⟨w, hw, hattends⟩))
    · exact .inr (.inr ⟨List.any_eq_true.mpr ⟨w, hw, hparked⟩, .inl (Nat.succ_pos _)⟩)
  | notify _ =>
    rcases hp with hempty | hcovered
    · left
      rw [queue_wakeOne]
      exact hempty
    · refine .inr (covered_wakeOne ⟨hinv.lined.nodup, hinv.lined.mem_line_iff,
        hinv.lined.line_of_permit⟩ ?_)
      exact hcovered.imp_right And.left
  | take worker now task rest hw _ => exact .inr (.inl (hcomes hw rfl))
  | leave worker now _ hempty _ => exact .inl hempty
  | parkWoken worker now _ hempty _ _ => exact .inl hempty
  | park worker now due _ hempty _ _ _ => exact .inl hempty
  | finish worker task hw => exact .inr (.inl (hcomes hw rfl))
  | panic worker task hw =>
    by_cases hqueue : p.queue = []
    · exact .inl hqueue
    · by_contra hlost
      refine hkeep ⟨hqueue, fun i v hne hv => ?_, fun hparked hwakeup => ?_⟩
      · have hmem : v ∈ p.staff.set worker .exiting :=
          List.mem_of_getElem? ((List.getElem?_set_ne (Ne.symm hne)).trans hv)
        exact Bool.eq_false_iff.mpr fun h => hlost (.inr (.inl (List.any_eq_true.mpr ⟨v, hmem, h⟩)))
      · have hwakeup' := hwakeup.imp_right (Or.imp_left (any_set (.exiting : Worker T) hw rfl))
        exact hlost (.inr (.inr ⟨any_set _ hw rfl hparked, hwakeup'⟩))
  | wake worker hw => exact .inr (.inl (hcomes hw rfl))
  | expire worker now due hw _ => exact .inr (.inl (hcomes hw rfl))
  | resign worker heard hw =>
    cases hqueue : p.queue with
    | nil => exact .inl hqueue
    | cons task rest =>
      refine .inr (.inl (hcomes hw ?_))
      rfl
  | withdraw worker retires hw =>
    cases retires with
    | false => exact .inr (.inl (hcomes hw rfl))
    | true => exact hp.imp_right fun hc => hc.set _ hw rfl rfl rfl rfl rfl rfl
  | passOn worker retires hw =>
    rcases hp with hempty | hcovered
    · left
      rw [queue_wakeOne]
      exact hempty
    · right
      cases retires with
      | false => exact covered_wakeOne (hinv.lined.set _ hw rfl rfl rfl id) (.inl (hcomes hw rfl))
      | true =>
        refine covered_wakeOne (hinv.lined.set _ hw rfl rfl rfl id) ?_
        exact hcovered.imp (any_set _ hw rfl) fun hparked => any_set _ hw rfl hparked.1
  | withdrawWoken worker retires hw =>
    cases retires with
    | false => exact .inr (.inl (hcomes hw rfl))
    | true => exact hp.imp_right fun hc => hc.set _ hw rfl rfl rfl rfl rfl rfl
  | strike worker hw => exact hp.imp_right fun hc => hc.set _ hw rfl rfl rfl rfl rfl rfl
  | wakeAll closer _ =>
    rcases hp with hempty | hcovered
    · exact .inl hempty
    · exact .inr (.inl (any_attends_wakeLine hinv.lined (hcovered.imp_right And.left)))
  | announce _ => exact hp.of_closers rfl rfl rfl fun h => List.mem_map.mpr ⟨_, h, rfl⟩
  | close => exact hp.of_closers rfl rfl rfl fun h => List.mem_append_left _ h
  | register closer hc => exact hp.of_closers rfl rfl rfl fun h => mem_set_of_ne _ hc nofun h
  | readGone closer signalled hc _ =>
    exact hp.of_closers rfl rfl rfl fun h => mem_set_of_ne _ hc nofun h
  | readBusy closer signalled hc _ =>
    exact hp.of_closers rfl rfl rfl fun h => mem_set_of_ne _ hc nofun h
  | resume closer hc => exact hp.of_closers rfl rfl rfl fun h => mem_set_of_ne _ hc nofun h

/-- What abandons the queue does so: there are tasks, and nobody comes for them. -/
theorem not_attended_of_abandons (h : Happens p a q) (ha : p.Abandons a) : ¬q.Attended := by
  cases h with
  | hire task _ _ hwants _ =>
    rw [ha.1] at hwants
    cases hwants
  | accept task _ _ _ =>
    obtain ⟨-, hleaving⟩ := ha
    rintro (hempty | hany | ⟨hany, -⟩)
    · exact List.append_ne_nil_of_right_ne_nil _ (List.cons_ne_nil _ _) hempty
    · obtain ⟨w, hw, hattends⟩ := List.any_eq_true.mp hany
      rw [(hleaving w hw).1] at hattends
      cases hattends
    · obtain ⟨w, hw, hparked⟩ := List.any_eq_true.mp hany
      rw [(hleaving w hw).2] at hparked
      cases hparked
  | panic worker task hw =>
    obtain ⟨hqueue, hnone, hparked⟩ := ha
    rintro (hempty | hany | ⟨hany, hcomes⟩)
    · exact hqueue hempty
    · obtain ⟨i, w, hne, hi, hattends⟩ := exists_of_any_set hany rfl
      rw [hnone i w hne hi] at hattends
      cases hattends
    · obtain ⟨i, w, -, hi, hw⟩ := exists_of_any_set hany rfl
      refine hparked (List.any_eq_true.mpr ⟨w, List.mem_of_getElem? hi, hw⟩) ?_
      refine hcomes.imp_right (Or.imp_left fun hholds => ?_)
      obtain ⟨j, v, -, hj, hv⟩ := exists_of_any_set hholds rfl
      exact List.any_eq_true.mpr ⟨v, List.mem_of_getElem? hj, hv⟩
  | _ => exact ha.elim

/-! ### Runs -/

/-- Performs actions one after the other, if each is possible in its turn. -/
def run (p : Pool T) : List (PoolAction T) → Option (Pool T)
  | [] => some p
  | a :: rest => (p.step a).bind (·.run rest)

theorem run_append (p : Pool T) (as bs : List (PoolAction T)) :
    p.run (as ++ bs) = (p.run as).bind (·.run bs) := by
  induction as generalizing p with
  | nil => rfl
  | cons a rest ih =>
    rw [List.cons_append, run, run]
    cases p.step a with
    | none => rfl
    | some q => exact ih q

/-- A run in two parts. -/
theorem exists_of_run_append {as bs : List (PoolAction T)} (h : p.run (as ++ bs) = some q) :
    ∃ r, p.run as = some r ∧ r.run bs = some q := by
  rw [run_append] at h
  exact Option.bind_eq_some_iff.mp h

theorem run_of_run_append {as bs : List (PoolAction T)} {r : Pool T} (hq : p.run as = some q)
    (h : p.run (as ++ bs) = some r) : q.run bs = some r := by
  rwa [run_append, hq, Option.bind_some] at h

/-- An action of a run happens in some pool on the way. -/
theorem exists_happens_of_mem {as : List (PoolAction T)} (h : p.run as = some q) (ha : a ∈ as) :
    ∃ xs bs r r', as = xs ++ a :: bs ∧ p.run xs = some r ∧ Happens r a r' ∧
      r'.run bs = some q := by
  obtain ⟨xs, bs, rfl⟩ := List.append_of_mem ha
  obtain ⟨r, hr, hrest⟩ := exists_of_run_append h
  obtain ⟨r', hstep, hbs⟩ := Option.bind_eq_some_iff.mp hrest
  exact ⟨xs, bs, r, r', rfl, hr, happens_of_step hstep, hbs⟩

/-- What every action of a run keeps holds at its end. -/
theorem run_keeps {P : Pool T → Prop} {as : List (PoolAction T)} (h : p.run as = some q) (hp : P p)
    (keep : ∀ {r a r'}, a ∈ as → Happens r a r' → P r → P r') : P q := by
  induction as generalizing p with
  | nil => exact Option.some.inj h ▸ hp
  | cons a rest ih =>
    obtain ⟨r, hstep, hrest⟩ := Option.bind_eq_some_iff.mp h
    exact ih hrest (keep List.mem_cons_self (happens_of_step hstep) hp)
      fun hb => keep (List.mem_cons_of_mem a hb)

/-- The reachable pools are those that runs from the start lead to. -/
theorem reachable_iff_run {name : String} {s : PoolSettings} {hosted : Bool} :
    Reachable name s hosted p ↔ ∃ as, (ofSettings name s hosted).run as = some p := by
  constructor
  · intro h
    induction h with
    | start => exact ⟨[], rfl⟩
    | step a _ hs ih =>
      obtain ⟨as, has⟩ := ih
      refine ⟨as ++ [a], ?_⟩
      rw [run_append, has, Option.bind_some, run, hs]
      rfl
  · rintro ⟨as, has⟩
    induction as using List.reverseRecOn generalizing p with
    | nil => exact Option.some.inj has ▸ .start
    | append_singleton as a ih =>
      rw [run_append] at has
      obtain ⟨q, hq, hlast⟩ := Option.bind_eq_some_iff.mp has
      obtain ⟨r, hr, heq⟩ := Option.bind_eq_some_iff.mp hlast
      cases heq
      exact .step a (ih hq) hr

/-- When each action either keeps a property or is one of those that lose it, the property holds
all through a run exactly if none of the latter is in it. -/
theorem forall_run_iff {I P : Pool T → Prop} {loses : Pool T → PoolAction T → Prop}
    (keep : ∀ {p a q}, Happens p a q → I p → I q)
    (sharp : ∀ {p a q}, Happens p a q → I p → P p → (P q ↔ ¬loses p a))
    (hinv : I p) (hp : P p) {as : List (PoolAction T)} (h : p.run as = some q) :
    (∀ n r, p.run (as.take n) = some r → P r) ↔
      ∀ n r a, p.run (as.take n) = some r → as[n]? = some a → ¬loses r a := by
  -- The first action keeps the property or loses it; the rest is a run from where it leads.
  induction as generalizing p with
  | nil =>
    constructor
    · intro _ n r a _ ha
      cases ha
    · intro _ n r hr
      rw [List.take_nil] at hr
      exact Option.some.inj hr ▸ hp
  | cons a rest ih =>
    obtain ⟨p', hstep, hrest⟩ := Option.bind_eq_some_iff.mp h
    have hhappens := happens_of_step hstep
    have hinv' := keep hhappens hinv
    have hsucc (n : Nat) : p.run ((a :: rest).take (n + 1)) = p'.run (rest.take n) := by
      rw [List.take_succ_cons, run, hstep, Option.bind_some]
    constructor
    · intro hall n r b hr hb
      have hp' : P p' := hall 1 p' (hsucc 0)
      cases n with
      | zero =>
        cases hr
        cases hb
        exact (sharp hhappens hinv hp).mp hp'
      | succ n =>
        rw [hsucc] at hr
        exact (ih hinv' hp' hrest).mp
          (fun m r hr => hall (m + 1) r ((hsucc m).trans hr)) n r b hr hb
    · intro hnone n r hr
      cases n with
      | zero =>
        cases hr
        exact hp
      | succ n =>
        have hp' : P p' := (sharp hhappens hinv hp).mpr (hnone 0 p a rfl rfl)
        rw [hsucc] at hr
        exact (ih hinv' hp' hrest).mpr
          (fun m r b hr hb => hnone (m + 1) r b ((hsucc m).trans hr) hb) n r hr

/-- A run from an attended pool stays attended as long as nothing abandons the queue, and no
longer. -/
theorem attended_run_iff (hp : p.Attended) (hinv : p.Invariant) {as : List (PoolAction T)}
    (h : p.run as = some q) :
    (∀ n r, p.run (as.take n) = some r → r.Attended) ↔
      ∀ n r a, p.run (as.take n) = some r → as[n]? = some a → ¬r.Abandons a := by
  refine forall_run_iff (fun hstep hinv => hinv.happens hstep) (fun hstep hinv hp => ?_) hinv hp h
  constructor
  · intro hq ha
    exact not_attended_of_abandons hstep ha hq
  · exact hp.happens hinv hstep

/-- When somebody has seen the end of a shutdown, an attended queue is empty: all tasks were
handed over. -/
theorem Attended.queue_eq_nil (hp : p.Attended) (hinv : p.Invariant)
    (hdone : Closer.done ∈ p.closers) :
    p.queue = [] ∧ p.handed = p.accepted := by
  have hgone : ∀ w ∈ p.staff, w.isAlive = false := by
    have hcount := hinv.counted.workers_eq
    rw [hinv.finished.workers_eq_zero hdone] at hcount
    intro w hw
    exact Bool.eq_false_iff.mpr (List.countP_eq_zero.mp hcount.symm w hw)
  have hqueue : p.queue = [] := by
    rcases hp with hempty | hany | ⟨hany, -⟩
    · exact hempty
    · obtain ⟨w, hw, hattends⟩ := List.any_eq_true.mp hany
      have halive := hgone w hw
      cases w <;> cases halive
      cases hattends
    · obtain ⟨w, hw, hparked⟩ := List.any_eq_true.mp hany
      have halive := hgone w hw
      cases w <;> cases halive
      cases hparked
  refine ⟨hqueue, ?_⟩
  have haccounted := hinv.accounted
  rw [Accounted, hqueue, List.append_nil] at haccounted
  exact haccounted.symm

/-- **When no task is stranded.**  In a run from the start, every pool on the way has an empty
queue or a worker that will look at it, and an empty queue and all accepted tasks handed over once
a shutdown is over, exactly if no action on the way is a panic of the last worker that would come,
or a submit that is accepted while all workers are leaving. -/
theorem run_attended_iff (name : String) (s : PoolSettings) (hosted : Bool)
    (as : List (PoolAction T))
    (h : (ofSettings name s hosted).run as = some p) :
    (∀ n q, (ofSettings name s hosted).run (as.take n) = some q →
      q.Attended ∧ (Closer.done ∈ q.closers → q.queue = [] ∧ q.handed = q.accepted)) ↔
      ∀ n q a, (ofSettings name s hosted).run (as.take n) = some q → as[n]? = some a →
        ¬q.Abandons a := by
  have hinv := invariant_ofSettings (T := T) name s hosted
  rw [← attended_run_iff (.inl rfl) hinv h]
  constructor
  · intro hall n q hq
    exact (hall n q hq).1
  · intro hall n q hq
    have hreachable := reachable_iff_run.mpr ⟨_, hq⟩
    exact ⟨hall n q hq, (hall n q hq).queue_eq_nil hreachable.invariant⟩

/-- One worker that does its task and is told to shut down. -/
theorem run_attended_drain :
    let start : Pool Nat := ofSettings "one" { maxWorkers := 1 } true
    let as : List (PoolAction Nat) :=
      [.submit 1, .close, .look 0 0, .finish 0, .look 0 0, .strike 0]
    (∃ p, start.run as = some p ∧ p.handed = [1]) ∧
      ∀ n q, start.run (as.take n) = some q →
        q.Attended ∧ (Closer.done ∈ q.closers → q.queue = [] ∧ q.handed = q.accepted) := by
  intro start as
  obtain ⟨p, hp, hhanded⟩ : ∃ p, start.run as = some p ∧ p.handed = [1] := ⟨_, rfl, rfl⟩
  refine ⟨⟨p, hp, hhanded⟩, (run_attended_iff _ _ _ as hp).mpr ?_⟩
  intro n q a hq ha habandons
  match n with
  | 0 =>
    cases hq
    cases ha
    exact Bool.noConfusion habandons.1
  | 1 | 2 | 3 | 4 | 5 =>
    cases ha
    exact habandons
  | n + 6 => cases ha

/-- One worker, whose handler panics over the first of two tasks: the second is left, and a
shutdown that is called for then is over all the same. -/
theorem run_panic_strands :
    ∃ p : Pool Nat, (ofSettings "one" { maxWorkers := 1 } true).run
        [.submit 1, .submit 2, .notify, .look 0 0, .panic 0, .strike 0, .close, .announce,
          .wakeAll 0,
          .register 0, .read 0] = some p ∧
      p.queue = [2] ∧ p.handed = [1] ∧ Closer.done ∈ p.closers ∧ ¬p.Attended := by
  refine ⟨_, rfl, rfl, rfl, List.mem_singleton_self _, ?_⟩
  rintro (hempty | hany | ⟨hany, -⟩)
  · cases hempty
  · cases hany
  · cases hany

/-- One worker that retires for want of work: it still counts when the second task comes, which is
accepted and left, no handler having panicked. -/
theorem run_retire_strands :
    ∃ p : Pool Nat, (ofSettings "one" { maxWorkers := 1, maxIdle := 0 } true).run
        [.submit 1, .look 0 0, .finish 0, .look 0 0, .expire 0 30000, .resign 0, .submit 2,
          .withdraw 0,
          .notify, .strike 0] = some p ∧
      p.queue = [2] ∧ p.workers = 0 ∧ ¬p.Attended := by
  refine ⟨_, rfl, rfl, rfl, ?_⟩
  rintro (hempty | hany | ⟨hany, -⟩)
  · cases hempty
  · cases hany
  · cases hany

end Pool
end MailPolicy
