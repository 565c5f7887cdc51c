/-
What the workers of a crew do, in the traffic.

The crew that runs the probes of a kind gives its workers turns, and a probe ends in one go: it
finds something, writes it, gives its guard back with the signal that may be due, and its worker
looks for the next.  In the traffic these are steps one after the other, between which anyone else
may come; so what a crew makes of a bench is one of the things that can come about.

* `Traffic.Pending` — no worker runs a probe whose slot has ended, as it is between the turns of a
  crew;
* `Traffic.Works` — what the workers of one kind make of some traffic;
* `Traffic.Invariant.finish` — the end of a probe is such a thing;
* `Traffic.keeps_works` — **and so is all that a crew does**.
-/
import MailPolicy.Proofs.Engine.Traffic
import MailPolicy.Proofs.Pool.Crew

namespace MailPolicy

theorem Bench.setBoard_setBoard (b : Bench) (request : Nat) (s s' : Board Float) :
    (b.setBoard request s).setBoard request s' = b.setBoard request s' := by
  rw [setBoard, setBoard, setBoard, List.set_set]

/-- A guard is given back, and then the signal if one is due. -/
theorem Bench.unlock_eq {b : Bench} {request slot : Nat} {s : Board Float}
    (hlt : request < b.boards.length)
    (hs : (b.board request).step (.release slot) = some s) :
    b.unlock request slot = (b.setBoard request s).setBoard request
      (((b.setBoard request s).board request).attemptAll [.signal]) := by
  rw [setBoard_setBoard, board_setBoard_self hlt, unlock]
  congr 1
  show [BoardAction.signal].foldl Board.attempt ((b.board request).attempt (.release slot)) = _
  rw [Board.attempt, hs, Option.getD_some]
  rfl

/-- The start of a probe changes nothing but the record of what was asked. -/
theorem Probe.start_eq (net : Network) (b : Bench) (now : Nat) (p : Probe) :
    ∃ queries, (p.start net b now).2 = { b with queries := queries } := by
  unfold start
  split
  · split
    · exact ⟨_, rfl⟩
    · split <;> exact ⟨_, rfl⟩
  · exact ⟨_, rfl⟩

namespace Traffic

variable {e : Engine} {t t' t'' : Traffic} {request : Nat} {kind : CheckKind}

theorem Leads.trans (h : Leads e t t') (h' : Leads e t' t'') : Leads e t t'' := by
  induction h' with
  | refl => exact h
  | step _ hs ih => exact ih.step hs

theorem setBoard_board (t : Traffic) (request : Nat) :
    t.setBoard request (t.bench.board request) = t := by
  rw [setBoard, Bench.setBoard_board]

/-- Waiting and signals at a score, as far as they are possible. -/
theorem leads_attemptAll (hlt : request < t.bench.boards.length) (as : List (BoardAction Float))
    (has : ∀ a ∈ as, a.isWaiting = true) :
    Leads e t (t.setBoard request ((t.bench.board request).attemptAll as)) := by
  induction as generalizing t with
  | nil =>
    show Leads e t (t.setBoard request (t.bench.board request))
    rw [setBoard_board]
    exact .refl
  | cons a rest ih =>
    have hrest : ∀ a ∈ rest, a.isWaiting = true := fun b hb => has b (List.mem_cons_of_mem a hb)
    have hfirst : Leads e t (t.setBoard request ((t.bench.board request).attempt a)) := by
      rcases Board.attempt_eq_or (t.bench.board request) a with heq | hstep
      · rw [heq, setBoard_board]
        exact .refl
      · exact .step .refl (.attend (has a List.mem_cons_self) hstep)
    have hboard : (t.setBoard request ((t.bench.board request).attempt a)).bench.board request =
        (t.bench.board request).attempt a := Bench.board_setBoard_self hlt
    have hlast := ih (t := t.setBoard request ((t.bench.board request).attempt a))
      (by rw [setBoard, Bench.setBoard, List.length_set]; exact hlt) hrest
    rw [hboard, setBoard, setBoard, Bench.setBoard_setBoard] at hlast
    exact hfirst.trans hlast

/-- Whether no worker runs a probe whose slot has ended. -/
def Pending (t : Traffic) : Prop :=
  ∀ kind p, Worker.running p ∈ (t.pools kind).staff → ∀ c : Call, t.calls[p.request]? = some c →
    c.ended p.slot = none

/-- What a call was asked, and where it stands. -/
def standing? (t : Traffic) (request : Nat) : Option (Request × Phase) :=
  t.calls[request]?.map fun c => (c.attributes, c.phase)

/-- What the workers of one kind make of some traffic. -/
structure Works (e : Engine) (kind : CheckKind) (t t' : Traffic) : Prop where
  leads : Leads e t t'
  pools_eq : ∀ other, other ≠ kind → t'.pools other = t.pools other
  pending : t'.Pending
  standing_eq : ∀ request, t'.standing? request = t.standing? request

theorem Works.trans (h : Works e kind t t') (h' : Works e kind t' t'') : Works e kind t t'' where
  leads := h.leads.trans h'.leads
  pools_eq := fun other hne => (h'.pools_eq other hne).trans (h.pools_eq other hne)
  pending := h'.pending
  standing_eq := fun request => (h'.standing_eq request).trans (h.standing_eq request)

/-- A free action of a pool. -/
theorem Invariant.works_act {a : PoolAction Probe} {q : Pool Probe} (h : t.Invariant e)
    (hpending : t.Pending)
    (ha : a.isFree = true) (hstep : (t.pools kind).step a = some q) : Works e kind t
    (t.setPool kind q) where
  leads := by
    refine .step .refl (.work ?_ ?_ hstep)
    · rintro task rfl
      cases ha
    · rintro worker p (rfl | rfl) _
      · cases ha
      · cases ha
  pools_eq := fun other hne => pools_setPool_of_ne hne q
  pending := by
    intro other p hp c hc
    rcases eq_or_ne other kind with rfl | hne
    · rw [pools_setPool_self] at hp
      rcases (Pool.happens_of_step hstep).running hp with hold | ⟨hqueue, -⟩
      · exact hpending other p hold c hc
      · exact (h.queued other p hqueue c hc).1
    · rw [pools_setPool_of_ne hne] at hp
      exact hpending other p hp c hc
  standing_eq := fun _ => rfl

/-- Free actions of a pool, as far as they are possible. -/
theorem Invariant.works_attemptAll {as : List (PoolAction Probe)} (hnum : e.Numbered)
    (h : t.Invariant e)
    (hpending : t.Pending) (kind : CheckKind) (has : ∀ a ∈ as, a.isFree = true) :
    ∃ t', Works e kind t t' ∧ t'.bench = t.bench ∧
      t'.pools kind = (t.pools kind).attemptAll as := by
  induction as generalizing t with
  | nil => exact ⟨t, ⟨.refl, fun _ _ => rfl, hpending, fun _ => rfl⟩, rfl, rfl⟩
  | cons a rest ih =>
    have hrest : ∀ b ∈ rest, b.isFree = true := fun b hb => has b (List.mem_cons_of_mem a hb)
    cases hstep : (t.pools kind).step a with
    | none =>
      obtain ⟨u, hu, hbench, hpool⟩ := ih h hpending hrest
      refine ⟨u, hu, hbench, ?_⟩
      show _ = rest.foldl Pool.attempt ((t.pools kind).attempt a)
      rw [Pool.attempt, hstep, Option.getD_none]
      exact hpool
    | some q =>
      have hact := h.works_act hpending (has a List.mem_cons_self) hstep
      obtain ⟨u, hu, hbench, hpool⟩ := ih (hact.leads.invariant hnum h) hact.pending hrest
      refine ⟨u, hact.trans hu, hbench, ?_⟩
      show _ = rest.foldl Pool.attempt ((t.pools kind).attempt a)
      rw [Pool.attempt, hstep, Option.getD_some, hpool, pools_setPool_self]
      rfl

/-- Two workers do not run probes with one slot of one request. -/
theorem Invariant.eq_of_running {kind' : CheckKind} {worker worker' : Nat} {p p' : Probe}
    (h : t.Invariant e)
    (hp : (t.pools kind).staff[worker]? = some (.running p))
    (hp' : (t.pools kind').staff[worker']? = some (.running p')) (hrequest : p'.request = p.request)
    (hslot : p'.slot = p.slot) : kind' = kind ∧ worker' = worker := by
  obtain ⟨c, hc, hown⟩ := h.owned kind p (h.mem_accepted_of_running (List.mem_of_getElem? hp))
  have hown' := h.owns (h.mem_accepted_of_running (List.mem_of_getElem? hp')) (hrequest ▸ hc)
  obtain ⟨check, hcheck, hkind⟩ := hown.check
  obtain ⟨check', hcheck', hkind'⟩ := hown'.check
  rw [hslot, hcheck] at hcheck'
  obtain rfl := Option.some.inj hcheck'
  obtain rfl : kind = kind' := hkind.symm.trans hkind'
  refine ⟨rfl, ?_⟩
  -- Only one probe with this place was ever accepted, so only one was handed over.
  let place (q : Probe) : Bool := (q.request, q.slot) == (p.request, p.slot)
  have hone : (t.pools kind).handed.countP place ≤ 1 := by
    have hnodup := h.nodup kind
    rw [(h.pools kind).accounted, List.map_append] at hnodup
    have hcount := List.nodup_iff_count_le_one.mp hnodup.of_append_left (p.request, p.slot)
    rwa [List.count, List.countP_map] at hcount
  refine (h.pools kind).once.eq_of_running hone hp' hp ?_ (BEq.rfl)
  show ((p'.request, p'.slot) == (p.request, p.slot)) = true
  rw [hrequest, hslot]
  exact BEq.rfl

/-- A probe finds something, which is written, and its guard is given back with the signal that
may be due. -/
theorem Invariant.conclude {worker : Nat} {p : Probe} {c : Call} (hnum : e.Numbered)
    (h : t.Invariant e) (net : Network)
    (hworker : (t.pools kind).staff[worker]? = some (.running p))
    (hc : t.calls[p.request]? = some c)
    (hnone : c.ended p.slot = none) :
    ∃ t', Leads e t t' ∧ t'.bench = (p.finish net t.bench).2 ∧ t'.pools = t.pools ∧
      t'.calls = t.calls.set p.request (c.log p.slot (p.find net t.bench).1.points?) ∧
      p.slot ∉ (t'.bench.board p.request).guards := by
  obtain ⟨hlt, -⟩ := List.getElem?_eq_some_iff.mp hc
  -- What it found is written.
  set points := (p.find net t.bench).1.points?
  set b := (p.find net t.bench).2.settleFinding p.request p.slot (p.find net t.bench).1
  set found : Traffic := ({ t with bench := b }).setCall p.request (c.log p.slot points)
  have hfind : Step e t found := .find net hworker hc hnone
  have hbecomes := h.becomes_find net hworker hc hnone (c.log p.slot points)
  have hcall : found.calls[p.request]? = some (c.log p.slot points) := hbecomes.call_self hc
  have hsound : Call.Sound e (b.board p.request) _ := (h.step hnum hfind).sound p.request _ hcall
  have hlength : p.request < b.boards.length := by
    have heq : b.boards.length = found.calls.length := (h.step hnum hfind).length_eq
    rw [heq]
    exact (List.getElem?_eq_some_iff.mp hcall).1
  have hguard : p.slot ∈ (b.board p.request).guards := by
    have hboard : b.board p.request = _ := hbecomes.board_self (h.length_eq ▸ hlt)
    rw [hboard]
    exact h.running kind p (List.mem_of_getElem? hworker) c hc hnone
  -- Its guard is given back.
  obtain ⟨s, hs⟩ : ∃ s, (b.board p.request).step (.release p.slot) = some s := ⟨_, if_pos hguard⟩
  have hended : ((c.log p.slot points).ended p.slot).isSome = true := by
    rw [Call.ended_log_self]
    rfl
  have hrelease : Step e found (found.setBoard p.request s) := .release hworker hcall hended hs
  have hfree : p.slot ∉ s.guards := by
    obtain ⟨-, -, hguards, -⟩ := Board.of_step hs
    rw [hguards, BoardAction.onGuards, hsound.consistent.nodup.mem_erase_iff]
    exact fun hmem => hmem.1 rfl
  -- A signal is given if one is due.
  have hlength' : p.request < (found.setBoard p.request s).bench.boards.length := by
    rw [setBoard, Bench.setBoard, List.length_set]
    exact hlength
  have hsignal : Leads e _ _ := leads_attemptAll hlength' [.signal]
    (by simp [BoardAction.isWaiting])
  refine ⟨_, (Leads.step (.step .refl hfind) hrelease).trans hsignal,
    (Bench.unlock_eq hlength hs).symm, rfl, rfl, ?_⟩
  rw [setBoard, Bench.board_setBoard_self hlength']
  show p.slot ∉ (((b.setBoard p.request s).board p.request).attempt .signal).guards
  rw [Bench.board_setBoard_self hlength]
  rcases Board.attempt_eq_or s .signal with heq | hstep
  · rwa [heq]
  · rwa [(Board.of_isWaiting rfl hstep).2]

/-- Whoever runs a probe after the end of a call ran it before, and is not the worker whose call has ended. -/
theorem exists_of_running_setWorker {other : CheckKind} {worker : Nat} {p : Probe} {v : Worker Probe}
    (hworker : worker < (t.pools kind).staff.length) (hv : ∀ p, v ≠ .running p)
    (hp : Worker.running p ∈ ((t.setPool kind ((t.pools kind).setWorker worker v)).pools other).staff) :
    ∃ i, (t.pools other).staff[i]? = some (.running p) ∧ ¬(other = kind ∧ i = worker) := by
  obtain ⟨i, hi⟩ := List.mem_iff_getElem?.mp hp
  rcases eq_or_ne other kind with rfl | hne
  · rw [pools_setPool_self] at hi
    rcases eq_or_ne worker i with rfl | hother
    · have hself : ((t.pools other).setWorker worker v).staff[worker]? = some v :=
        List.getElem?_set_self hworker
      exact absurd (Option.some.inj (hself.symm.trans hi)) (hv p)
    · exact ⟨i, (List.getElem?_set_ne hother).symm.trans hi, fun hsame => hother hsame.2.symm⟩
  · rw [pools_setPool_of_ne hne] at hi
    exact ⟨i, hi, fun hsame => hne hsame.1⟩

/-- The slot of a probe is logged, and the slots of all others that are run have not ended. -/
theorem Invariant.ended_eq_none_of_log {kind' : CheckKind} {worker i : Nat} {p p' : Probe} {c c' : Call}
    {points : Option Float} (h : t.Invariant e) (hpending : t.Pending)
    (hworker : (t.pools kind).staff[worker]? = some (.running p)) (hc : t.calls[p.request]? = some c)
    (hi : (t.pools kind').staff[i]? = some (.running p')) (hne : ¬(kind' = kind ∧ i = worker))
    (hc' : (t.calls.set p.request (c.log p.slot points))[p'.request]? = some c') :
    c'.ended p'.slot = none := by
  rcases eq_or_ne p'.request p.request with hrequest | hrequest
  · obtain ⟨hlt, -⟩ := List.getElem?_eq_some_iff.mp hc
    rw [hrequest, List.getElem?_set_self hlt] at hc'
    rw [← Option.some.inj hc', Call.ended_log_of_ne]
    · exact hpending kind' p' (List.mem_of_getElem? hi) c (hrequest ▸ hc)
    · exact fun hslot => hne (h.eq_of_running hworker hi hrequest hslot)
  · rw [List.getElem?_set_ne hrequest.symm] at hc'
    exact hpending kind' p' (List.mem_of_getElem? hi) c' hc'

/-- The end of a probe: it concludes, and its worker goes on. -/
theorem Invariant.finish {worker : Nat} {p : Probe} (hnum : e.Numbered) (h : t.Invariant e)
    (hpending : t.Pending) (net : Network)
    (hworker : (t.pools kind).staff[worker]? = some (.running p)) :
    ∃ t', Works e kind t t' ∧ t'.bench = (p.finish net t.bench).2 ∧
      t'.pools kind = (t.pools kind).attempt (Crew.endOf worker (p.finish net t.bench).1) := by
  have hmem := List.mem_of_getElem? hworker
  obtain ⟨c, hc, -⟩ := h.owned kind p (h.mem_accepted_of_running hmem)
  obtain ⟨u, hleads, hbench, hpools, hcalls, hfree⟩ :=
    h.conclude hnum net hworker hc (hpending kind p hmem c hc)
  obtain ⟨v, hv, hend⟩ := Crew.exists_step_endOf (p.finish net t.bench).1 (hpools ▸ hworker)
  have hwork : Step e u (u.setPool kind ((u.pools kind).setWorker worker v)) := by
    refine .work Crew.endOf_ne_submit (fun other p' hother hp' => ?_) hend
    -- The worker whose call ends is the one that ran the probe.
    rw [hpools, Crew.eq_of_endOf hother] at hp'
    rw [← Worker.running.inj (Option.some.inj (hworker.symm.trans hp'))]
    exact hfree
  refine ⟨_, ⟨.step hleads hwork, fun other hne => ?_, ?_, ?_⟩, hbench, ?_⟩
  · rw [pools_setPool_of_ne hne, hpools]
  · intro other p' hp' c' hc'
    obtain ⟨hlt, -⟩ := List.getElem?_eq_some_iff.mp hworker
    obtain ⟨i, hi, hne⟩ := exists_of_running_setWorker (hpools ▸ hlt) hv hp'
    change u.calls[p'.request]? = some c' at hc'
    rw [hcalls] at hc'
    exact h.ended_eq_none_of_log hpending hworker hc (hpools ▸ hi) hne hc'
  · intro other
    show u.calls[other]?.map _ = _
    rw [hcalls]
    rcases eq_or_ne other p.request with rfl | hne
    · obtain ⟨hlt, -⟩ := List.getElem?_eq_some_iff.mp hc
      rw [List.getElem?_set_self hlt, standing?, hc]
      rfl
    · rw [List.getElem?_set_ne hne.symm]
      rfl
  · rw [pools_setPool_self, Pool.attempt, ← hpools, hend, Option.getD_some]

/-- **All that a crew does can come about in the traffic.** -/
theorem keeps_works (hnum : e.Numbered) (h : t.Invariant e) (net : Network) (kind : CheckKind) :
    Crew.Keeps (Probe.handler net) fun pool bench =>
      ∃ t', Works e kind t t' ∧ t'.bench = bench ∧ t'.pools kind = pool where
  act := by
    rintro _ _ a q ha hstep ⟨u, hu, rfl, rfl⟩
    have hact := (hu.leads.invariant hnum h).works_act hu.pending
      (PoolAction.isFree_of_isOwn ha) hstep
    exact ⟨_, hu.trans hact, rfl, pools_setPool_self u kind q⟩
  start := by
    rintro _ _ now worker p _ ⟨u, hu, rfl, rfl⟩
    obtain ⟨queries, hstart⟩ := p.start_eq net u.bench now
    have hasked : Works e kind u { u with bench := { u.bench with queries := queries } } :=
      ⟨.step .refl (.outside u.bench.memories u.bench.now queries u.bench.subjects), fun _ _ =>
        rfl, hu.pending,
        fun _ => rfl⟩
    exact ⟨_, hu.trans hasked, hstart.symm, rfl⟩
  finish := by
    rintro _ _ worker p hworker ⟨u, hu, rfl, rfl⟩
    obtain ⟨u', hfinish, hbench, hpool⟩ :=
      (hu.leads.invariant hnum h).finish hnum hu.pending net hworker
    exact ⟨u', hu.trans hfinish, hbench, hpool⟩

end Traffic
end MailPolicy
