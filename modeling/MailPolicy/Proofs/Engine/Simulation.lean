/-
The engine as it runs, in the traffic.

The engine carries a decision on until it waits, lets workers take turns, and resumes decisions
that have waited.  Some traffic with the same scores, memories and pools goes along with it: here
with its workers, and with the evaluation of checks.

* `Mirrors` — some traffic is in the state of an engine;
* `Mirrors.settle` — the workers keep it;
* `Mirrors.Advances` — a call has gone on, and the others stand where they did;
* `Mirrors.answer`, `Mirrors.lock`, `Mirrors.queue`, `Mirrors.refuse` — what the evaluation of a
  check is made of;
* `Mirrors.evaluateAll` — **the checks of a stage are evaluated one after the other**.
-/
import MailPolicy.Proofs.Engine.Workers

namespace MailPolicy

/-- What a check comes to at once is written as it is on the bench. -/
theorem EngineState.record_eq (s : EngineState) (request slot : Nat) (points : Option Float) :
    s.record request slot points = { s with bench := s.bench.record request slot points } := by
  cases points <;> rfl

/-- Writing a slot has nothing to do with what checks remember. -/
theorem Bench.record_setMemory (b : Bench) (request slot : Nat) (m : Memory)
    (points : Option Float) :
    ∃ memories, (b.setMemory slot m).record request slot points =
      { b.record request slot points with memories := memories } := by
  cases points <;> exact ⟨b.memories.set slot m, rfl⟩

/-- A check in the background is left out, or takes a probe. -/
theorem Check.atOnce?_of_isBackground {c : Check} {m : Memory} {now : Nat} {r : Request}
    (h : c.kind.isBackground = true) :
    c.atOnce? m now r = if m.omits now then some none else none := by
  cases c with
  | blockList c | senderPolicy c => rfl
  | valueList c | pattern c | keyFile c => cases h

/-- So is it by the engine. -/
theorem EngineState.evaluate_of_isBackground {s : EngineState} {request slot : Nat} {c : Check}
    {r : Request}
    (h : c.kind.isBackground = true) :
    s.evaluate request slot c r = if (s.bench.memory slot).omits s.bench.now then (.ok (), s)
      else s.dispatch c.name c.kind ⟨request, slot, r⟩ := by
  cases c with
  | blockList c | senderPolicy c => rfl
  | valueList c | pattern c | keyFile c => cases h

/-- A look-up in a file of keys writes what it comes to, and may claim a comparison of stamps. -/
theorem EngineState.evaluateKeyFile_eq (s : EngineState) (request slot : Nat) (c : KeyCheck)
    (r : Request) :
    ∃ points memories, (Check.keyFile c).atOnce? (s.bench.memory slot) s.bench.now r = some points ∧
      (s.evaluateKeyFile request slot c r).bench =
        { s.bench.record request slot points with memories := memories } ∧
      (s.evaluateKeyFile request slot c r).crews = s.crews := by
  -- The keys at hand decide, whether or not a comparison of stamps is claimed beside it.
  unfold evaluateKeyFile
  cases hmemory : s.bench.memory slot with
  | keys file =>
    refine ⟨c.weight? file r, ?_⟩
    cases hfield : r.field? c.field with
    | none =>
      have hnone : c.weight? file r = none := by rw [KeyCheck.weight?, hfield, Option.bind_none]
      rw [hnone]
      exact ⟨s.bench.memories, congrArg some hnone, rfl, rfl⟩
    | some value =>
      cases hclaim : file.claim? s.bench.now with
      | none =>
        refine ⟨(s.bench.record request slot (c.weight? file r)).memories, rfl, ?_⟩
        simp only [hclaim, record_eq]
        exact ⟨rfl, rfl⟩
      | some claimed =>
        obtain ⟨memories, hrecord⟩ := s.bench.record_setMemory request slot (.keys claimed)
          (c.weight? file r)
        refine ⟨memories, rfl, ?_⟩
        simp only [hclaim, record_eq]
        exact ⟨hrecord, rfl⟩
  | nothing => exact ⟨none, s.bench.memories, rfl, rfl, rfl⟩
  | failures tracker => exact ⟨none, s.bench.memories, rfl, rfl, rfl⟩

/-- Whether some traffic that can come about is in the state of an engine. -/
structure Mirrors (e : Engine) (s : EngineState) (t : Traffic) : Prop where
  reachable : t.Reachable e
  pending : t.Pending
  bench_eq : t.bench = s.bench
  pools_eq : ∀ pool ∈ s.crews, t.pools pool.1 = pool.2.pool
  nodup : (s.crews.map Prod.fst).Nodup
  manned : ∀ check ∈ e.checks, check.kind.isBackground = true → check.kind ∈ s.crews.map Prod.fst

namespace Mirrors

variable {e : Engine} {s s' : EngineState} {t t' : Traffic} {request offset : Nat} {r : Request}
  {stage : PlacedStage Check Float} {next : Float → Plan Check Float (Decision Float)}

theorem of_leads (hm : Mirrors e s t) (hl : Traffic.Leads e t t') (hpending : t'.Pending)
    (hbench : t'.bench = s'.bench) (hpools : t'.pools = t.pools) (hcrews : s'.crews = s.crews) :
    Mirrors e s' t' where
  reachable := by
    obtain ⟨memories, now, pools, hosted, hstart⟩ := hm.reachable
    exact ⟨memories, now, pools, hosted, hstart.trans hl⟩
  pending := hpending
  bench_eq := hbench
  pools_eq := hcrews ▸ hpools ▸ hm.pools_eq
  nodup := hcrews ▸ hm.nodup
  manned := hcrews ▸ hm.manned

/-! ### Workers -/

/-- All crews settle, one after the other. -/
theorem exists_settleCrews (hnum : e.Numbered) (net : Network) (clock : Nat)
    (crews : List (CheckKind × Crew Probe))
    (h : t.Invariant e) (hpending : t.Pending) (hnodup : (crews.map Prod.fst).Nodup)
    (hpools : ∀ pool ∈ crews, t.pools pool.1 = pool.2.pool) :
    ∃ t', Traffic.Leads e t t' ∧ t'.Pending ∧
      t'.bench = (EngineState.settleCrews net clock crews t.bench).2 ∧
      (EngineState.settleCrews net clock crews t.bench).1.map Prod.fst = crews.map Prod.fst ∧
      (∀ pool ∈ (EngineState.settleCrews net clock crews t.bench).1,
        t'.pools pool.1 = pool.2.pool) ∧
      (∀ kind, kind ∉ crews.map Prod.fst → t'.pools kind = t.pools kind) ∧
      ∀ request, t'.standing? request = t.standing? request := by
  induction crews generalizing t with
  | nil =>
    exact ⟨t, .refl, hpending, rfl, rfl, fun _ hpool => absurd hpool List.not_mem_nil, fun _ _ =>
      rfl, fun _ => rfl⟩
  | cons first rest ih =>
    obtain ⟨kind, crew⟩ := first
    rw [List.map_cons, List.nodup_cons] at hnodup
    have hself : t.pools kind = crew.pool := hpools _ List.mem_cons_self
    have hstart : Traffic.Works e kind t t := ⟨.refl, fun _ _ => rfl, hpending, fun _ => rfl⟩
    -- The first crew settles, and the others on the bench that it leaves behind.
    obtain ⟨u, hu, hbench, hpool⟩ := (Traffic.keeps_works hnum h net kind).settle (c := crew) clock
      ⟨t, hstart, rfl, hself⟩
    have hrest : ∀ pool ∈ rest, u.pools pool.1 = pool.2.pool := by
      intro pool hmem
      have hkind : pool.1 ∈ rest.map Prod.fst := List.mem_map_of_mem hmem
      rw [hu.pools_eq pool.1 fun heq => hnodup.1 (heq ▸ hkind),
        hpools pool (List.mem_cons_of_mem _ hmem)]
    obtain ⟨t', hl, hpending', hbench', hkinds, hpools', hothers, hstanding⟩ :=
      ih (hu.leads.invariant hnum h) hu.pending hnodup.2 hrest
    rw [hbench] at hbench' hkinds hpools'
    refine ⟨t', hu.leads.trans hl, hpending', hbench', ?_, ?_, ?_, ?_⟩
    · exact congrArg (kind :: ·) hkinds
    · intro pool hmem
      rcases List.mem_cons.mp hmem with rfl | hmem
      · exact (hothers kind hnodup.1).trans hpool
      · exact hpools' pool hmem
    · intro other hother
      rw [List.map_cons, List.mem_cons, not_or] at hother
      rw [hothers other hother.2, hu.pools_eq other hother.1]
    · exact fun request => (hstanding request).trans (hu.standing_eq request)

/-- **The workers keep the traffic in the state of the engine.** -/
theorem settle (hnum : e.Numbered) (hm : Mirrors e s t) (net : Network) :
    ∃ t', Traffic.Leads e t t' ∧ Mirrors e (s.settle net) t' ∧
      ∀ request, t'.standing? request = t.standing? request := by
  obtain ⟨t', hl, hpending, hbench, hkinds, hpools, -, hstanding⟩ :=
    exists_settleCrews hnum net s.clock s.crews
    (hm.reachable.invariant hnum) hm.pending hm.nodup hm.pools_eq
  rw [hm.bench_eq] at hbench hkinds hpools
  obtain ⟨memories, now, pools, hosted, hstart⟩ := hm.reachable
  refine ⟨t', hl, ⟨⟨memories, now, pools, hosted, hstart.trans hl⟩, hpending, hbench, hpools, ?_,
    ?_⟩, hstanding⟩
  · exact hkinds ▸ hm.nodup
  · exact hkinds ▸ hm.manned

/-! ### A call -/

/-- Whether a call has gone on to some standing, and all others stand where they did. -/
structure Advances (e : Engine) (s' : EngineState) (request : Nat) (r : Request) (phase : Phase)
    (t t' : Traffic) :
    Prop where
  leads : Traffic.Leads e t t'
  mirrors : Mirrors e s' t'
  standing_self : t'.standing? request = some (r, phase)
  standing_of_ne : ∀ other, other ≠ request → t'.standing? other = t.standing? other

theorem Advances.refl {phase : Phase} (hm : Mirrors e s t)
    (hstanding : t.standing? request = some (r, phase)) :
    Advances e s request r phase t t := ⟨.refl, hm, hstanding, fun _ _ => rfl⟩

/-- A call goes on when all calls stand where they did. -/
theorem Advances.of_standing {phase : Phase} (hl : Traffic.Leads e t t') (hm : Mirrors e s' t')
    (hsame : ∀ request, t'.standing? request = t.standing? request)
    (hstanding : t.standing? request = some (r, phase)) : Advances e s' request r phase t t' :=
  ⟨hl, hm, (hsame request).trans hstanding, fun other _ => hsame other⟩

theorem Advances.trans {t'' : Traffic} {s'' : EngineState} {phase phase' : Phase}
    (h : Advances e s' request r phase t t') (h' : Advances e s'' request r phase' t' t'') :
    Advances e s'' request r phase' t t'' where
  leads := h.leads.trans h'.leads
  mirrors := h'.mirrors
  standing_self := h'.standing_self
  standing_of_ne := fun other hne => (h'.standing_of_ne other hne).trans
    (h.standing_of_ne other hne)

theorem exists_call {phase : Phase} (h : t.standing? request = some (r, phase)) :
    ∃ c, t.calls[request]? = some c ∧ c.attributes = r ∧ c.phase = phase := by
  obtain ⟨c, hc, heq⟩ := Option.map_eq_some_iff.mp h
  obtain ⟨hr, hphase⟩ := Prod.mk.inj heq
  exact ⟨c, hc, hr, hphase⟩

theorem standing?_set_self {c c' : Call} {phase : Phase} (hc : t.calls[request]? = some c)
    (hcalls : t'.calls = t.calls.set request c') (hr : c'.attributes = r)
    (hphase : c'.phase = phase) :
    t'.standing? request = some (r, phase) := by
  obtain ⟨hlt, -⟩ := List.getElem?_eq_some_iff.mp hc
  rw [Traffic.standing?, hcalls, List.getElem?_set_self hlt, Option.map_some, hr, hphase]

theorem standing?_set_of_ne {c' : Call} (hcalls : t'.calls = t.calls.set request c') {other : Nat}
    (hne : other ≠ request) : t'.standing? other = t.standing? other := by
  rw [Traffic.standing?, hcalls, List.getElem?_set_ne hne.symm, ← Traffic.standing?]

/-- When one call goes on and no slot ends, what has ended stays as it is for all calls. -/
theorem exists_ended_eq {c c' d : Call} {other : Nat} (hc : t.calls[request]? = some c)
    (hcalls : t'.calls = t.calls.set request c') (hended : c'.ended = c.ended)
    (hd : t'.calls[other]? = some d) :
    ∃ d', t.calls[other]? = some d' ∧ d.ended = d'.ended := by
  rw [hcalls] at hd
  rcases eq_or_ne other request with rfl | hne
  · obtain ⟨hlt, -⟩ := List.getElem?_eq_some_iff.mp hc
    rw [List.getElem?_set_self hlt] at hd
    exact ⟨c, hc, Option.some.inj hd ▸ hended⟩
  · rw [List.getElem?_set_ne hne.symm] at hd
    exact ⟨d, hd, rfl⟩

/-- No worker runs a probe whose slot has ended, when only slots without a probe have. -/
theorem pending_set {c c' : Call} (h : t.Invariant e) (hpending : t.Pending)
    (hc : t.calls[request]? = some c)
    (hpools : t'.pools = t.pools) (hcalls : t'.calls = t.calls.set request c')
    (hended : ∀ i ∈ c.evaluated, c'.ended i = c.ended i) : t'.Pending := by
  intro kind p hp d hd
  rw [hpools] at hp
  rw [hcalls] at hd
  rcases eq_or_ne p.request request with rfl | hne
  · obtain ⟨hlt, -⟩ := List.getElem?_eq_some_iff.mp hc
    rw [List.getElem?_set_self hlt] at hd
    have hown := h.owns (h.mem_accepted_of_running hp) hc
    rw [← Option.some.inj hd, hended p.slot hown.mem_evaluated]
    exact hpending kind p hp c hc
  · rw [List.getElem?_set_ne hne.symm] at hd
    exact hpending kind p hp d hd

/-- A check that answers at once. -/
theorem answer {check : Check} {points : Option Float} {memories : List Memory} (hnum : e.Numbered)
    (hm : Mirrors e s t) (hstanding : t.standing? request = some (r, .evaluating stage offset next))
    (hcheck : stage.stage.checks[offset]? = some check)
    (hpoints : check.atOnce? (s.bench.memory (stage.firstSlot + offset)) s.bench.now r =
      some points)
    (hbench : s'.bench = { s.bench.record request (stage.firstSlot + offset) points with
      memories := memories })
    (hcrews : s'.crews = s.crews) :
    ∃ t', Advances e s' request r (.evaluating stage (offset + 1) next) t t' := by
  have hinv := hm.reachable.invariant hnum
  obtain ⟨c, hc, rfl, hphase⟩ := exists_call hstanding
  rw [← hm.bench_eq] at hpoints hbench
  have hstep : Traffic.Step e t _ := .answer hc hphase hcheck hpoints
  have hsound := hinv.sound request c hc
  refine ⟨_, .step (.step .refl hstep)
    (.outside memories s'.bench.now s'.bench.queries s'.bench.subjects), ?_,
    standing?_set_self hc rfl rfl rfl, fun other hne => standing?_set_of_ne rfl hne⟩
  refine hm.of_leads (.step (.step .refl hstep) (.outside _ _ _ _)) ?_ ?_ rfl hcrews
  · refine pending_set hinv hm.pending hc rfl rfl fun i hi => ?_
    exact Call.ended_log_of_ne (hsound.ne_of_mem hnum hphase hcheck hi)
  · rw [hbench]
    rfl

theorem pool_of_lookup {kind : CheckKind} {crew : Crew Probe} (hm : Mirrors e s t)
    (h : s.crews.lookup kind = some crew) : t.pools kind = crew.pool := by
  obtain ⟨before, behind, heq, -⟩ := List.lookup_eq_some_iff.mp h
  refine hm.pools_eq (kind, crew) ?_
  rw [heq]
  exact List.mem_append_right _ List.mem_cons_self

/-- Checks in the background have a crew. -/
theorem exists_crew {check : Check} (hm : Mirrors e s t) (hcheck : check ∈ e.checks)
    (hback : check.kind.isBackground = true) : ∃ crew, s.crews.lookup check.kind = some crew := by
  obtain ⟨pool, hpool, hkind⟩ := List.mem_map.mp (hm.manned check hcheck hback)
  rw [← Option.isSome_iff_exists, List.lookup_isSome_iff]
  exact ⟨pool, hpool, by rw [hkind]; exact BEq.rfl⟩

/-- The pool of a kind changes, and its crew with it. -/
theorem setCrew {kind : CheckKind} {crew : Crew Probe} {u : Traffic} (hm : Mirrors e s t)
    (hl : Traffic.Leads e t u)
    (hpending : u.Pending) (hbench : u.bench = s'.bench) (hself : u.pools kind = crew.pool)
    (hother : ∀ other, other ≠ kind → u.pools other = t.pools other) (hcrews : s'.crews = s.crews) :
    Mirrors e (s'.setCrew kind crew) u := by
  obtain ⟨memories, now, pools, hosted, hstart⟩ := hm.reachable
  have hkinds : (s'.setCrew kind crew).crews.map Prod.fst = s.crews.map Prod.fst := by
    rw [EngineState.setCrew, hcrews, List.map_map]
    refine List.map_congr_left fun pool _ => ?_
    show Prod.fst (if pool.1 = kind then (pool.1, crew) else (pool.1, pool.2)) = pool.1
    split <;> rfl
  refine ⟨⟨memories, now, pools, hosted, hstart.trans hl⟩, hpending, hbench, ?_, hkinds ▸ hm.nodup,
    hkinds ▸ hm.manned⟩
  intro pool hpool
  rw [EngineState.setCrew, hcrews] at hpool
  obtain ⟨⟨other, old⟩, hold, rfl⟩ := List.mem_map.mp hpool
  dsimp only
  by_cases hkind : other = kind
  · rw [if_pos hkind, hkind]
    exact hself
  · rw [if_neg hkind]
    exact (hother other hkind).trans (hm.pools_eq (other, old) hold)

/-- A guard is handed out for the probe of a check. -/
theorem lock {check : Check} (hnum : e.Numbered) (hm : Mirrors e s t)
    (hstanding : t.standing? request = some (r, .evaluating stage offset next))
    (hcheck : stage.stage.checks[offset]? = some check)
    (hpoints : check.atOnce? (s.bench.memory (stage.firstSlot + offset)) s.bench.now r = none) :
    ∃ t', Advances e { s with bench := s.bench.lock request (stage.firstSlot + offset) } request r
      (.submitting stage offset next) t t' := by
  have hinv := hm.reachable.invariant hnum
  obtain ⟨c, hc, rfl, hphase⟩ := exists_call hstanding
  have hsound := hinv.sound request c hc
  have hfree : stage.firstSlot + offset ∉ (t.bench.board request).guards := by
    intro hmem
    exact hsound.ne_of_mem hnum hphase hcheck (hsound.mem_of_guard _ hmem) rfl
  obtain ⟨b, hb⟩ : ∃ b, (t.bench.board request).step (.lock (stage.firstSlot + offset)) = some b :=
    ⟨_, if_neg hfree⟩
  rw [← hm.bench_eq] at hpoints
  have hstep : Traffic.Step e t _ := .lock hc hphase hcheck hpoints hb
  refine ⟨_, .step .refl hstep, hm.of_leads (.step .refl hstep) ?_ ?_ rfl rfl,
    standing?_set_self hc rfl rfl rfl,
    fun other hne => standing?_set_of_ne rfl hne⟩
  · exact pending_set hinv hm.pending hc rfl rfl fun _ _ => rfl
  · show t.bench.setBoard request b = s.bench.lock request (stage.firstSlot + offset)
    rw [← hm.bench_eq, Bench.lock, Board.attempt, hb, Option.getD_some]

/-- The probe of a check is queued. -/
theorem queue {check : Check} {crew crew' : Crew Probe} (hnum : e.Numbered) (hm : Mirrors e s t)
    (hstanding : t.standing? request = some (r, .submitting stage offset next))
    (hcheck : stage.stage.checks[offset]? = some check)
    (hcrew : s.crews.lookup check.kind = some crew)
    (hsubmit : crew.submit ⟨request, stage.firstSlot + offset, r⟩ = .ok crew') :
    ∃ t', Advances e (s.setCrew check.kind crew') request r
    (.evaluating stage (offset + 1) next) t t' := by
  have hinv := hm.reachable.invariant hnum
  obtain ⟨c, hc, rfl, hphase⟩ := exists_call hstanding
  obtain ⟨q, hq, hpool⟩ := Crew.exists_of_submit hsubmit
  rw [← hm.pool_of_lookup hcrew] at hq
  have hstep : Traffic.Step e t _ := .queue hc hphase hcheck hq
  set queued := (t.setPool check.kind q).setCall request
    { c with phase := .evaluating stage (offset + 1) next }
  have hcalls : queued.calls = t.calls.set request
    { c with phase := .evaluating stage (offset + 1) next } := rfl
  have hself : queued.pools check.kind = q := Traffic.pools_setPool_self t check.kind q
  have hpending : queued.Pending := by
    intro kind p hp d hd
    obtain ⟨d', hd', hended⟩ := exists_ended_eq hc hcalls rfl hd
    rw [hended]
    rcases eq_or_ne kind check.kind with rfl | hne
    · rw [hself] at hp
      rcases (Pool.happens_of_submit hq).running hp with hold | ⟨hqueue, -⟩
      · exact hm.pending check.kind p hold d' hd'
      · exact (hinv.queued check.kind p hqueue d' hd').1
    · exact hm.pending kind p (Traffic.pools_setPool_of_ne hne q ▸ hp) d' hd'
  -- The wake-ups for the probe are sent.
  have hfree : ∀ a ∈ List.replicate q.owedWakeups PoolAction.notify, (a : PoolAction Probe).isFree =
      true := by
    intro a ha
    rw [List.eq_of_mem_replicate ha]
    rfl
  obtain ⟨u, hu, hbench, hlast⟩ :=
    (hinv.step hnum hstep).works_attemptAll hnum hpending check.kind hfree
  have hleads := (Traffic.Leads.step .refl hstep).trans hu.leads
  refine ⟨u, hleads, hm.setCrew hleads hu.pending (hbench.trans hm.bench_eq) ?_ ?_ rfl, ?_, ?_⟩
  · rw [hlast, hself, hpool]
  · intro other hne
    rw [hu.pools_eq other hne]
    exact Traffic.pools_setPool_of_ne hne q
  · rw [hu.standing_eq]
    exact standing?_set_self hc rfl rfl rfl
  · intro other hne
    rw [hu.standing_eq]
    exact standing?_set_of_ne (t := t) rfl hne

/-- The probe of a check is refused, and the call returns. -/
theorem refuse {check : Check} {crew : Crew Probe} {reason : PoolError} (hnum : e.Numbered)
    (hm : Mirrors e s t)
    (hstanding : t.standing? request = some (r, .submitting stage offset next))
    (hcheck : stage.stage.checks[offset]? = some check)
    (hcrew : s.crews.lookup check.kind = some crew)
    (hsubmit : crew.submit ⟨request, stage.firstSlot + offset, r⟩ = .error reason) :
    ∃ t', Advances e { s with bench := s.bench.unlock request (stage.firstSlot + offset) } request r
      (.returned (.error (CheckError.rejected check.name reason).fault)) t t' := by
  have hinv := hm.reachable.invariant hnum
  obtain ⟨c, hc, rfl, hphase⟩ := exists_call hstanding
  have hq := Crew.submit_eq_error hsubmit
  rw [← hm.pool_of_lookup hcrew] at hq
  obtain ⟨hlt, -⟩ := List.getElem?_eq_some_iff.mp hc
  have hboards : request < t.bench.boards.length := hinv.length_eq ▸ hlt
  obtain ⟨n, -, -, -, -, hguard, -⟩ := (hinv.sound request c hc).stands_of hphase
  obtain ⟨b, hb⟩ : ∃ b, (t.bench.board request).step (.release (stage.firstSlot + offset)) =
    some b :=
    ⟨_, if_pos hguard⟩
  -- The call learns that the probe is refused, gives the guard back, and returns.
  set told : Call :=
    { c with phase := .refused (stage.firstSlot + offset) (.rejected check.name reason) }
  have hrefuse : Traffic.Step e t (t.setCall request told) := .refuse hc hphase hcheck hq
  have htold : (t.setCall request told).calls[request]? = some told := List.getElem?_set_self hlt
  have hback : Traffic.Step e (t.setCall request told) _ := .giveBack htold rfl hb
  have hgone := (Traffic.Leads.refl.step hrefuse).step hback
  have hcount : request < (t.bench.setBoard request b).boards.length := by
    rwa [Bench.setBoard, List.length_set]
  have hleads := hgone.trans
    (Traffic.leads_attemptAll hcount [.signal] (by simp [BoardAction.isWaiting]))
  have hcalls (last : Call) : (t.calls.set request told).set request last =
    t.calls.set request last :=
    List.set_set told
  refine ⟨_, hleads, hm.of_leads hleads ?_ ?_ rfl rfl, standing?_set_self hc (hcalls _) rfl rfl,
    fun other hne => standing?_set_of_ne (hcalls _) hne⟩
  · exact pending_set hinv hm.pending hc rfl (hcalls _) fun _ _ => rfl
  · rw [← hm.bench_eq]
    exact (Bench.unlock_eq hboards hb).symm

/-- Where a call stands when the evaluation of checks has come to an end. -/
def after (phase : Phase) : Except CheckError Unit → Phase
  | .ok () => phase
  | .error err => .returned (.error err.fault)

/-- A check that takes a probe. -/
theorem dispatch {check : Check} (hnum : e.Numbered) (hm : Mirrors e s t)
    (hstanding : t.standing? request = some (r, .evaluating stage offset next))
    (hcheck : stage.stage.checks[offset]? = some check)
    (hpoints : check.atOnce? (s.bench.memory (stage.firstSlot + offset)) s.bench.now r = none) :
    ∃ t', Advances e (s.dispatch check.name check.kind ⟨request, stage.firstSlot + offset, r⟩).2
    request r
      (after (.evaluating stage (offset + 1) next)
        (s.dispatch check.name check.kind ⟨request, stage.firstSlot + offset, r⟩).1) t t' := by
  obtain ⟨u, hu⟩ := hm.lock hnum hstanding hcheck hpoints
  have hget : check ∈ e.checks := by
    obtain ⟨c, hc, -, hphase⟩ := exists_call hstanding
    obtain ⟨n, -, -, -, -, hget⟩ :=
      ((hm.reachable.invariant hnum).sound request c hc).comes hnum hphase hcheck
    exact List.mem_of_getElem? hget
  obtain ⟨crew, hcrew⟩ := hm.exists_crew hget (Check.isBackground_of_atOnce? hpoints)
  rw [EngineState.dispatch, hcrew]
  cases hsubmit : crew.submit ⟨request, stage.firstSlot + offset, r⟩ with
  | ok crew' =>
    obtain ⟨t', ht'⟩ := hu.mirrors.queue hnum hu.standing_self hcheck hcrew hsubmit
    simp only [hsubmit]
    exact ⟨t', hu.trans ht'⟩
  | error reason =>
    obtain ⟨t', ht'⟩ := hu.mirrors.refuse hnum hu.standing_self hcheck hcrew hsubmit
    simp only [hsubmit]
    exact ⟨t', hu.trans ht'⟩

/-- A check in the background is evaluated. -/
theorem evaluate_background {check : Check} (hnum : e.Numbered) (hm : Mirrors e s t)
    (hstanding : t.standing? request = some (r, .evaluating stage offset next))
    (hcheck : stage.stage.checks[offset]? = some check) (hback : check.kind.isBackground = true) :
    ∃ t', Advances e (s.evaluate request (stage.firstSlot + offset) check r).2 request r
      (after (.evaluating stage (offset + 1) next)
        (s.evaluate request (stage.firstSlot + offset) check r).1) t t' := by
  rw [EngineState.evaluate_of_isBackground hback]
  by_cases homits : (s.bench.memory (stage.firstSlot + offset)).omits s.bench.now = true
  · rw [if_pos homits]
    exact hm.answer hnum hstanding hcheck
      ((Check.atOnce?_of_isBackground hback).trans (if_pos homits)) rfl rfl
  · rw [if_neg homits]
    exact hm.dispatch hnum hstanding hcheck
      ((Check.atOnce?_of_isBackground hback).trans (if_neg homits))

/-- A check is evaluated. -/
theorem evaluate {check : Check} (hnum : e.Numbered) (hm : Mirrors e s t)
    (hstanding : t.standing? request = some (r, .evaluating stage offset next))
    (hcheck : stage.stage.checks[offset]? = some check) :
    ∃ t', Advances e (s.evaluate request (stage.firstSlot + offset) check r).2 request r
      (after (.evaluating stage (offset + 1) next)
        (s.evaluate request (stage.firstSlot + offset) check r).1) t t' := by
  cases check with
  | valueList c =>
    rw [EngineState.evaluate, EngineState.record_eq]
    exact hm.answer hnum hstanding hcheck rfl rfl rfl
  | pattern c =>
    rw [EngineState.evaluate, EngineState.record_eq]
    exact hm.answer hnum hstanding hcheck rfl rfl rfl
  | keyFile c =>
    obtain ⟨points, memories, hpoints, hbench, hcrews⟩ :=
      s.evaluateKeyFile_eq request (stage.firstSlot + offset) c r
    exact hm.answer hnum hstanding hcheck hpoints hbench hcrews
  | blockList c => exact hm.evaluate_background hnum hstanding hcheck c.isBackground_kind
  | senderPolicy c => exact hm.evaluate_background hnum hstanding hcheck rfl

/-- **The checks of a stage are evaluated one after the other**, up to the first that cannot be. -/
theorem evaluateAll (hnum : e.Numbered) {checks : List Check} (hm : Mirrors e s t)
    (hstanding : t.standing? request = some (r, .evaluating stage offset next))
    (hchecks : stage.stage.checks.drop offset = checks) :
    ∃ t', Advances e (EngineState.evaluateAll request (stage.firstSlot + offset) r checks s).2
    request r
      (after (.evaluating stage (offset + checks.length) next)
        (EngineState.evaluateAll request (stage.firstSlot + offset) r checks s).1) t t' := by
  induction checks generalizing s t offset with
  | nil => exact ⟨t, .refl hm hstanding⟩
  | cons check rest ih =>
    have hcheck : stage.stage.checks[offset]? = some check := by
      rw [← Nat.add_zero offset, ← List.getElem?_drop, hchecks, List.getElem?_cons_zero]
    have hrest : stage.stage.checks.drop (offset + 1) = rest := by
      rw [← List.tail_drop, hchecks, List.tail_cons]
    obtain ⟨u, hu⟩ := hm.evaluate hnum hstanding hcheck
    rw [EngineState.evaluateAll, List.length_cons, Nat.add_comm rest.length, ← Nat.add_assoc]
    rcases hfirst : s.evaluate request (stage.firstSlot + offset) check r with ⟨⟨⟩ | ⟨⟩, s₁⟩
    · rw [hfirst] at hu
      exact ⟨u, hu⟩
    · rw [hfirst] at hu
      obtain ⟨t', ht'⟩ := ih hu.mirrors hu.standing_self hrest
      exact ⟨t', hu.trans ht'⟩

end Mirrors
end MailPolicy
