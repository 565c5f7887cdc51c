/-
What holds of all calls that share an engine.

A probe in a pool belongs to exactly one call: it carries that call's attributes, its slot is one
that the call has evaluated, and no other probe has it.  While the probe is in the queue its slot
has not ended and its guard is out, and so it stays until a worker that runs it has found
something.  Hence whatever workers do for one call leaves all others as they are.

* `Call.Owns` — a probe belongs to a call;
* `Traffic.Invariant` — what holds throughout;
* `Traffic.Invariant.become`, `Traffic.Invariant.spare`, `Traffic.Invariant.work` — what a change
  of one call, or of one pool, has to see to;
* `Traffic.Invariant.step` — every step keeps the invariant;
* `Traffic.Reachable.invariant` — **it holds of whatever can come about**.
-/
import MailPolicy.Proofs.Engine.Calls
import MailPolicy.Proofs.Pool.Invariant

namespace MailPolicy

/-! ### The bench -/

namespace Bench

variable {b : Bench} {request slot : Nat}

theorem setBoard_board (b : Bench) (request : Nat) : b.setBoard request (b.board request) = b := by
  rcases Nat.lt_or_ge request b.boards.length with hlt | hge
  · rw [setBoard, board, List.getElem?_eq_getElem hlt, Option.getD_some, List.set_getElem_self]
  · rw [setBoard, List.set_eq_of_length_le hge]

/-- What a check comes to at once stands in its slot. -/
theorem record_eq (b : Bench) (request slot : Nat) (points : Option Float) :
    b.record request slot points = b.setBoard request
      { b.board request with score := (b.board request).score.record (fun _ => points) slot } := by
  cases points with
  | some x => rfl
  | none => exact (b.setBoard_board request).symm

/-- So does what a probe found, if its guard is out. -/
theorem settleFinding_eq (hguard : slot ∈ (b.board request).guards) (f : Finding) :
    ∃ memories, b.settleFinding request slot f = { b.setBoard request
      { b.board request with
        score := (b.board request).score.record (fun _ => f.points?) slot } with
      memories := memories } := by
  cases f with
  | points x =>
    refine ⟨b.memories, ?_⟩
    show b.setBoard request ((b.board request).attempt (.write slot slot x)) = _
    rw [Board.attempt, Board.step, if_pos hguard]
    rfl
  | neutral =>
    refine ⟨b.memories, ?_⟩
    show b = b.setBoard request (b.board request)
    rw [setBoard_board]
  | failure =>
    refine ⟨b.memories.set slot ((b.memory slot).fail b.now), ?_⟩
    have hsame := b.setBoard_board request
    exact congrArg (fun b' : Bench =>
      { b' with memories := b.memories.set slot ((b.memory slot).fail b.now) })
      hsame.symm

end Bench

/-- Finding something changes nothing but the record of what was asked. -/
theorem Probe.find_eq (net : Network) (b : Bench) (p : Probe) :
    ∃ subjects, (p.find net b).2 = { b with subjects := subjects } := by
  unfold find
  split
  · split <;> exact ⟨_, rfl⟩
  · split <;> exact ⟨_, rfl⟩
  · exact ⟨_, rfl⟩

/-- Whether a probe in the pool of a kind belongs to a call. -/
structure Call.Owns (e : Engine) (kind : CheckKind) (c : Call) (p : Probe) : Prop where
  attributes_eq : p.attributes = c.attributes
  mem_evaluated : p.slot ∈ c.evaluated
  not_held : c.phase.held? ≠ some p.slot
  background : kind.isBackground = true
  check : ∃ check, e.checks[p.slot]? = some check ∧ check.kind = kind

namespace Traffic

variable {e : Engine} {t t' : Traffic} {request : Nat} {c c' : Call} {b' : Board Float}
  {kind : CheckKind}

/-! ### The invariant -/

/-- What holds of whatever can come about. -/
structure Invariant (e : Engine) (t : Traffic) : Prop where
  checks_eq : t.bench.checks = e.checks
  length_eq : t.bench.boards.length = t.calls.length
  sound : ∀ request (c : Call), t.calls[request]? = some c → c.Sound e (t.bench.board request)
  pools : ∀ kind, (t.pools kind).Invariant
  owned : ∀ kind, ∀ p ∈ (t.pools kind).accepted, ∃ c : Call, t.calls[p.request]? = some c ∧
    c.Owns e kind p
  nodup : ∀ kind, ((t.pools kind).accepted.map fun p => (p.request, p.slot)).Nodup
  queued : ∀ kind, ∀ p ∈ (t.pools kind).queue, ∀ c : Call, t.calls[p.request]? = some c →
    c.ended p.slot = none ∧ p.slot ∈ (t.bench.board p.request).guards
  running : ∀ kind p, Worker.running p ∈ (t.pools kind).staff → ∀ c, t.calls[p.request]? = some c →
    c.ended p.slot = none → p.slot ∈ (t.bench.board p.request).guards

theorem Invariant.mem_accepted_of_mem_queue (h : t.Invariant e) {p : Probe}
    (hp : p ∈ (t.pools kind).queue) :
    p ∈ (t.pools kind).accepted := by
  rw [(h.pools kind).accounted]
  exact List.mem_append_right _ hp

theorem Invariant.mem_accepted_of_running (h : t.Invariant e) {p : Probe}
    (hp : Worker.running p ∈ (t.pools kind).staff) : p ∈ (t.pools kind).accepted := by
  rw [(h.pools kind).accounted]
  exact List.mem_append_left _ ((h.pools kind).busy p hp)

/-- The call to which an accepted probe belongs. -/
theorem Invariant.owns (h : t.Invariant e) {p : Probe} (hp : p ∈ (t.pools kind).accepted)
    (hc : t.calls[p.request]? = some c) : c.Owns e kind p := by
  obtain ⟨d, hd, howns⟩ := h.owned kind p hp
  rwa [Option.some.inj (hc.symm.trans hd)]

/-- A probe that a worker runs is not in a queue any more. -/
theorem Invariant.ne_of_running (h : t.Invariant e) {p p' : Probe} {kind' : CheckKind}
    (hp : Worker.running p ∈ (t.pools kind).staff) (hp' : p' ∈ (t.pools kind').queue)
    (hrequest : p'.request = p.request) : p'.slot ≠ p.slot := by
  intro hslot
  obtain ⟨c, hc, howns⟩ := h.owned kind p (h.mem_accepted_of_running hp)
  have howns' := h.owns (h.mem_accepted_of_mem_queue hp') (hrequest ▸ hc)
  -- Both slots are that of one check, so both probes are in the pool of its kind.
  obtain ⟨check, hcheck, hkind⟩ := howns.check
  obtain ⟨check', hcheck', hkind'⟩ := howns'.check
  rw [hslot, hcheck] at hcheck'
  obtain rfl := Option.some.inj hcheck'
  obtain rfl : kind = kind' := hkind.symm.trans hkind'
  have hnodup := h.nodup kind
  rw [(h.pools kind).accounted, List.map_append, List.nodup_append'] at hnodup
  refine hnodup.2.2 (List.mem_map_of_mem ((h.pools kind).busy p hp)) ?_
  rw [← hrequest, ← hslot]
  exact List.mem_map_of_mem hp'

/-! ### Changes of one call -/

/-- Whether one call and its score are all that changes, but for the pools and what checks
remember. -/
structure Becomes (t t' : Traffic) (request : Nat) (b' : Board Float) (c' : Call) : Prop where
  checks_eq : t'.bench.checks = t.bench.checks
  boards_eq : t'.bench.boards = t.bench.boards.set request b'
  calls_eq : t'.calls = t.calls.set request c'

theorem Becomes.board_of_ne (h : Becomes t t' request b' c') {other : Nat} (hne : other ≠ request) :
    t'.bench.board other = t.bench.board other := by
  rw [Bench.board, h.boards_eq, List.getElem?_set_ne hne.symm, ← Bench.board]

theorem Becomes.board_self (h : Becomes t t' request b' c')
    (hlt : request < t.bench.boards.length) :
    t'.bench.board request = b' := by
  rw [Bench.board, h.boards_eq, List.getElem?_set_self hlt, Option.getD_some]

theorem Becomes.call_of_ne (h : Becomes t t' request b' c') {other : Nat} (hne : other ≠ request) :
    t'.calls[other]? = t.calls[other]? := by
  rw [h.calls_eq, List.getElem?_set_ne hne.symm]

theorem Becomes.call_self (h : Becomes t t' request b' c') (hc : t.calls[request]? = some c) :
    t'.calls[request]? = some c' := by
  obtain ⟨hlt, -⟩ := List.getElem?_eq_some_iff.mp hc
  rw [h.calls_eq, List.getElem?_set_self hlt]

/-- A change of a call keeps the invariant if it does so for this call and for the probes that
belong to it. -/
theorem Invariant.become (h : t.Invariant e) (hc : t.calls[request]? = some c)
    (hbecomes : Becomes t t' request b' c') (hpools : t'.pools = t.pools) (hsound : c'.Sound e b')
    (howns : ∀ kind p, c.Owns e kind p → c'.Owns e kind p)
    (hqueued : ∀ kind, ∀ p ∈ (t.pools kind).queue, p.request = request → c.Owns e kind p →
      c.ended p.slot = none → p.slot ∈ (t.bench.board request).guards →
      c'.ended p.slot = none ∧ p.slot ∈ b'.guards)
    (hrunning : ∀ kind p, Worker.running p ∈ (t.pools kind).staff → p.request = request →
      c.Owns e kind p →
      (c.ended p.slot = none → p.slot ∈ (t.bench.board request).guards) →
      c'.ended p.slot = none → p.slot ∈ b'.guards) : t'.Invariant e := by
  obtain ⟨hlt, -⟩ := List.getElem?_eq_some_iff.mp hc
  have hself := hbecomes.board_self (h.length_eq ▸ hlt)
  have hcall := hbecomes.call_self hc
  constructor
  · exact hbecomes.checks_eq.trans h.checks_eq
  · rw [hbecomes.boards_eq, hbecomes.calls_eq, List.length_set, List.length_set, h.length_eq]
  -- From here on: the call that changes is covered by what was asked for, all others by frame.
  · intro other d hd
    rcases eq_or_ne other request with rfl | hne
    · rw [hself, Option.some.inj (hd.symm.trans hcall)]
      exact hsound
    · rw [hbecomes.board_of_ne hne]
      exact h.sound other d ((hbecomes.call_of_ne hne).symm.trans hd)
  · exact hpools ▸ h.pools
  · intro kind p hp
    rw [hpools] at hp
    obtain ⟨d, hd, hown⟩ := h.owned kind p hp
    rcases eq_or_ne p.request request with heq | hne
    · rw [heq] at hd ⊢
      obtain rfl := Option.some.inj (hc.symm.trans hd)
      exact ⟨c', hcall, howns kind p hown⟩
    · exact ⟨d, (hbecomes.call_of_ne hne).trans hd, hown⟩
  · exact hpools ▸ h.nodup
  · intro kind p hp d hd
    rw [hpools] at hp
    rcases eq_or_ne p.request request with heq | hne
    · have hold := h.queued kind p hp c (heq ▸ hc)
      have hown := h.owns (h.mem_accepted_of_mem_queue hp) (heq ▸ hc)
      rw [heq] at hd hold ⊢
      rw [Option.some.inj (hd.symm.trans hcall), hself]
      exact hqueued kind p hp heq hown hold.1 hold.2
    · rw [hbecomes.board_of_ne hne]
      exact h.queued kind p hp d ((hbecomes.call_of_ne hne).symm.trans hd)
  · intro kind p hp d hd hnone
    rw [hpools] at hp
    rcases eq_or_ne p.request request with heq | hne
    · have hold := h.running kind p hp c (heq ▸ hc)
      have hown := h.owns (h.mem_accepted_of_running hp) (heq ▸ hc)
      rw [heq] at hd hold ⊢
      rw [Option.some.inj (hd.symm.trans hcall)] at hnone
      rw [hself]
      exact hrunning kind p hp heq hown hold hnone
    · rw [hbecomes.board_of_ne hne]
      exact h.running kind p hp d ((hbecomes.call_of_ne hne).symm.trans hd) hnone

/-- A call that leaves alone the slots of its probes keeps the invariant. -/
theorem Invariant.spare (h : t.Invariant e) (hc : t.calls[request]? = some c)
    (hbecomes : Becomes t t' request b' c') (hpools : t'.pools = t.pools) (hsound : c'.Sound e b')
    (hattributes : c'.attributes = c.attributes)
    (hspare : ∀ i ∈ c.evaluated, c.phase.held? ≠ some i → i ∈ c'.evaluated ∧
      c'.phase.held? ≠ some i ∧
      c'.ended i = c.ended i ∧ (i ∈ (t.bench.board request).guards → i ∈ b'.guards)) :
        t'.Invariant e := by
  refine h.become hc hbecomes hpools hsound ?_ ?_ ?_
  · intro kind p hown
    obtain ⟨hmem, hheld, -, -⟩ := hspare p.slot hown.mem_evaluated hown.not_held
    exact ⟨hown.attributes_eq.trans hattributes.symm, hmem, hheld, hown.background, hown.check⟩
  · intro kind p _ _ hown hnone hguard
    obtain ⟨-, -, hended, hguards⟩ := hspare p.slot hown.mem_evaluated hown.not_held
    exact ⟨hended.trans hnone, hguards hguard⟩
  · intro kind p _ _ hown hold hnone
    obtain ⟨-, -, hended, hguards⟩ := hspare p.slot hown.mem_evaluated hown.not_held
    exact hguards (hold (hended.symm.trans hnone))

/-! ### Changes of one pool -/

theorem pools_setPool_self (t : Traffic) (kind : CheckKind) (q : Pool Probe) :
    (t.setPool kind q).pools kind = q :=
  if_pos rfl

theorem pools_setPool_of_ne {other : CheckKind} (h : other ≠ kind) (q : Pool Probe) :
    (t.setPool kind q).pools other = t.pools other := if_neg h

/-- A step of a pool keeps the invariant if a probe that it accepts belongs to a call, has its
guard out and comes for the first time. -/
theorem Invariant.work {a : PoolAction Probe} {q : Pool Probe} (h : t.Invariant e)
    (hq : Pool.Happens (t.pools kind) a q)
    (hsubmit : ∀ p, a = .submit p → (∃ c : Call, t.calls[p.request]? = some c ∧ c.Owns e kind p ∧
      c.ended p.slot = none ∧ p.slot ∈ (t.bench.board p.request).guards) ∧
      ∀ p' ∈ (t.pools kind).accepted, p'.request = p.request → p'.slot ≠ p.slot) :
    (t.setPool kind q).Invariant e := by
  refine ⟨h.checks_eq, h.length_eq, h.sound, ?_, ?_, ?_, ?_, ?_⟩
  · intro other
    rcases eq_or_ne other kind with rfl | hne
    · rw [pools_setPool_self]
      exact (h.pools other).happens hq
    · rw [pools_setPool_of_ne hne]
      exact h.pools other
  · intro other p hp
    rcases eq_or_ne other kind with rfl | hne
    · rw [pools_setPool_self] at hp
      rcases hq.accepted_eq with heq | ⟨new, ha, heq⟩
      · exact h.owned other p (heq ▸ hp)
      · rw [heq] at hp
        rcases List.mem_append.mp hp with hold | hnew
        · exact h.owned other p hold
        · obtain ⟨⟨c, hc, hown, -, -⟩, -⟩ := hsubmit new ha
          rw [List.mem_singleton.mp hnew]
          exact ⟨c, hc, hown⟩
    · rw [pools_setPool_of_ne hne] at hp
      exact h.owned other p hp
  · intro other
    rcases eq_or_ne other kind with rfl | hne
    · rw [pools_setPool_self]
      -- Only a submit adds to those that were accepted, and its probe is new.
      rcases hq.accepted_eq with heq | ⟨new, ha, heq⟩
      · rw [heq]
        exact h.nodup other
      · obtain ⟨-, hfresh⟩ := hsubmit new ha
        rw [heq, List.map_append]
        refine List.nodup_append'.mpr ⟨h.nodup other, List.nodup_singleton _, ?_⟩
        rw [List.map_singleton, List.disjoint_singleton]
        intro hmem
        obtain ⟨p, hp, hplace⟩ := List.mem_map.mp hmem
        obtain ⟨hrequest, hslot⟩ := Prod.mk.inj hplace
        exact hfresh p hp hrequest hslot
    · rw [pools_setPool_of_ne hne]
      exact h.nodup other
  · intro other p hp d hd
    rcases eq_or_ne other kind with rfl | hne
    · rw [pools_setPool_self] at hp
      rcases hq.mem_queue hp with hold | ha
      · exact h.queued other p hold d hd
      · obtain ⟨⟨c, hc, -, hnone, hguard⟩, -⟩ := hsubmit p ha
        obtain rfl := Option.some.inj (hc.symm.trans hd)
        exact ⟨hnone, hguard⟩
    · rw [pools_setPool_of_ne hne] at hp
      exact h.queued other p hp d hd
  · intro other p hp d hd hnone
    rcases eq_or_ne other kind with rfl | hne
    · rw [pools_setPool_self] at hp
      -- A worker that runs a probe ran it before, or has taken it from the queue.
      rcases hq.running hp with hold | ⟨hqueue, -⟩
      · exact h.running other p hold d hd hnone
      · exact (h.queued other p hqueue d hd).2
    · rw [pools_setPool_of_ne hne] at hp
      exact h.running other p hp d hd hnone

/-! ### Steps -/

theorem invariant_start (e : Engine) (memories : List Memory) (now : Nat)
    (pools : CheckKind → PoolSettings)
    (hosted : Bool) : (start e memories now pools hosted).Invariant e where
  checks_eq := rfl
  length_eq := rfl
  sound := fun _ _ hc => by cases hc
  pools := fun kind => Pool.invariant_ofSettings kind.name (pools kind) hosted
  owned := fun _ _ hp => absurd hp List.not_mem_nil
  nodup := fun _ => List.nodup_nil
  queued := fun _ _ hp => absurd hp List.not_mem_nil
  running := fun _ _ hp => absurd hp List.not_mem_nil

/-- A request comes, and everything else stays as it is. -/
theorem Invariant.begin (hnum : e.Numbered) (h : t.Invariant e) (r : Request) :
    Invariant e {
      bench := { t.bench with boards := t.bench.boards ++ [.blank e.slots] }
      pools := t.pools
      calls := t.calls ++ [{ attributes := r, phase := .ofPlan e.plan }] } := by
  have hboard {other : Nat} (hlt : other < t.calls.length) :
      Bench.board { t.bench with boards := t.bench.boards ++ [.blank e.slots] } other =
        t.bench.board other := by
    rw [Bench.board, List.getElem?_append_left (h.length_eq ▸ hlt), ← Bench.board]
  have hlt {kind : CheckKind} {p : Probe} (hp : p ∈ (t.pools kind).accepted) :
      p.request < t.calls.length := by
    obtain ⟨c, hc, -⟩ := h.owned kind p hp
    exact (List.getElem?_eq_some_iff.mp hc).1
  refine ⟨h.checks_eq, ?_, ?_, h.pools, ?_, h.nodup, ?_, ?_⟩
  · rw [List.length_append, List.length_append, h.length_eq]
    rfl
  · intro other c hc
    rcases Nat.lt_trichotomy other t.calls.length with hlt | rfl | hgt
    · rw [List.getElem?_append_left hlt] at hc
      rw [hboard hlt]
      exact h.sound other c hc
    · rw [List.getElem?_concat_length] at hc
      have hnew : Bench.board { t.bench with boards := t.bench.boards ++ [.blank e.slots] }
          t.calls.length = .blank e.slots := by
        rw [Bench.board, ← h.length_eq, List.getElem?_concat_length, Option.getD_some]
      rw [hnew, ← Option.some.inj hc]
      exact Call.sound_begin hnum r
    · rw [List.getElem?_eq_none (by rw [List.length_append, List.length_singleton]; omega)] at hc
      cases hc
  · intro kind p hp
    obtain ⟨c, hc, hown⟩ := h.owned kind p hp
    exact ⟨c, (List.getElem?_append_left (hlt hp)).trans hc, hown⟩
  · intro kind p hp c hc
    have hold := hlt (h.mem_accepted_of_mem_queue hp)
    rw [List.getElem?_append_left hold] at hc
    rw [hboard hold]
    exact h.queued kind p hp c hc
  · intro kind p hp c hc
    have hold := hlt (h.mem_accepted_of_running hp)
    rw [List.getElem?_append_left hold] at hc
    rw [hboard hold]
    exact h.running kind p hp c hc

/-- Nothing changes when a call is set to what it is. -/
theorem set_self (hc : t.calls[request]? = some c) : t.calls = t.calls.set request c := by
  obtain ⟨hlt, rfl⟩ := List.getElem?_eq_some_iff.mp hc
  exact (List.set_getElem_self hlt).symm

theorem held?_ofPlan (plan : Plan Check Float (Decision Float)) :
    (Phase.ofPlan plan).held? = none := by
  cases plan <;> rfl

theorem held?_afterWait (b : Bench) (request : Nat) (stage : PlacedStage Check Float)
    (next : Float → Plan Check Float (Decision Float)) (result : WaitResult) :
    (Engine.afterWait b request stage next result).held? = none := by
  cases result with
  | quiet => exact held?_ofPlan _
  | timeout writers limit => rfl

/-- A probe writes what it found, or panics; its slot has then ended. -/
theorem Invariant.settle {worker : Nat} {p : Probe} {points : Option Float} {check : Check}
    (h : t.Invariant e)
    (hworker : (t.pools kind).staff[worker]? = some (.running p))
    (hc : t.calls[p.request]? = some c)
    (hnone : c.ended p.slot = none) (hcheck : e.checks[p.slot]? = some check)
    (hcomes : check.ComesTo p.slot c.attributes points)
    (hbecomes : Becomes t t' p.request { t.bench.board p.request with
      score := (t.bench.board p.request).score.record
        (fun _ => points) p.slot } (c.log p.slot points))
    (hpools : t'.pools = t.pools) : t'.Invariant e := by
  have hp := List.mem_of_getElem? hworker
  have hown := h.owns (h.mem_accepted_of_running hp) hc
  have hguard := h.running kind p hp c hc hnone
  refine h.become hc hbecomes hpools ((h.sound _ c hc).log hguard hnone hown.not_held hcheck hcomes)
    ?_ ?_ ?_
  · intro _ _ hother
    exact ⟨hother.attributes_eq, hother.mem_evaluated, hother.not_held, hother.background,
      hother.check⟩
  · intro _ p' hp' hrequest _ hended hmem
    exact ⟨(Call.ended_log_of_ne (h.ne_of_running hp hp' hrequest)).trans hended, hmem⟩
  · intro _ p' _ _ _ hold hended
    by_cases hslot : p'.slot = p.slot
    · rw [hslot]
      exact hguard
    · exact hold ((Call.ended_log_of_ne hslot).symm.trans hended)

/-- A request that has not come has no score that could change. -/
theorem Invariant.setBoard_of_none (h : t.Invariant e) (hc : t.calls[request]? = none)
    (b : Board Float) :
    t.setBoard request b = t := by
  have hlength := List.getElem?_eq_none_iff.mp hc
  rw [setBoard, Bench.setBoard, List.set_eq_of_length_le (h.length_eq ▸ hlength)]

/-- A call changes while its score stays as it is. -/
theorem becomes_setCall (hbench : t'.bench = t.bench) (hcalls : t'.calls = t.calls.set request c') :
    Becomes t t' request (t.bench.board request) c' where
  checks_eq := congrArg Bench.checks hbench
  boards_eq := congrArg Bench.boards (hbench.trans (t.bench.setBoard_board request).symm)
  calls_eq := hcalls

theorem becomes_record (t : Traffic) (request slot : Nat) (points : Option Float) (c' : Call) :
    Becomes t (({ t with bench := t.bench.record request slot points }).setCall request c') request
      { t.bench.board request with
        score := (t.bench.board request).score.record (fun _ => points) slot } c' := by
  rw [Bench.record_eq]
  exact ⟨rfl, rfl, rfl⟩

/-- A probe that finds something changes its own call and its score. -/
theorem Invariant.becomes_find {worker : Nat} {p : Probe} (h : t.Invariant e) (net : Network)
    (hworker : (t.pools kind).staff[worker]? = some (.running p))
    (hc : t.calls[p.request]? = some c)
    (hnone : c.ended p.slot = none) (c' : Call) :
    Becomes t (({ t with
        bench := (p.find net t.bench).2.settleFinding p.request p.slot
          (p.find net t.bench).1 }).setCall
        p.request c') p.request
      { t.bench.board p.request with
        score := (t.bench.board p.request).score.record (fun _ => (p.find net t.bench).1.points?)
          p.slot } c' := by
  obtain ⟨subjects, hfind⟩ := p.find_eq net t.bench
  have hguard := h.running kind p (List.mem_of_getElem? hworker) c hc hnone
  have hboard : (p.find net t.bench).2.board p.request = t.bench.board p.request := by
    rw [hfind]
    rfl
  obtain ⟨memories, hsettle⟩ := Bench.settleFinding_eq (hboard ▸ hguard) (p.find net t.bench).1
  refine ⟨?_, ?_, rfl⟩
  · show (Bench.settleFinding _ _ _ _).checks = _
    rw [hsettle, hfind]
    rfl
  · show (Bench.settleFinding _ _ _ _).boards = _
    rw [hsettle, hboard, hfind]
    rfl

/-- A probe is queued, with which its call parts. -/
theorem Invariant.queue {offset : Nat} {stage : PlacedStage Check Float}
    {next : Float → Plan Check Float (Decision Float)} {check : Check} {q : Pool Probe}
    (hnum : e.Numbered) (h : t.Invariant e) (hc : t.calls[request]? = some c)
    (hphase : c.phase = .submitting stage offset next)
    (hcheck : stage.stage.checks[offset]? = some check)
    (hsubmit : (t.pools check.kind).submit ⟨request, stage.firstSlot + offset, c.attributes⟩ = .ok q) :
    ((t.setPool check.kind q).setCall request
      { c with phase := .evaluating stage (offset + 1) next }).Invariant e := by
  have hsound := h.sound request c hc
  obtain ⟨n, hat, hoffset, hrange, hback, hguard, hnone⟩ := hsound.stands_of hphase
  obtain ⟨hlt, -⟩ := List.getElem?_eq_some_iff.mp hc
  -- The call goes on first: it leaves alone the slots of the probes that it has queued before.
  have hspare : (t.setCall request
      { c with phase := .evaluating stage (offset + 1) next }).Invariant e := by
    refine h.spare hc (becomes_setCall rfl rfl) rfl (hsound.queue hphase) rfl ?_
    exact fun i hi _ => ⟨hi, nofun, rfl, id⟩
  refine hspare.work (Pool.happens_of_submit hsubmit) fun p ha => ?_
  cases ha
  refine ⟨⟨_, List.getElem?_set_self hlt, ?_, hnone, hguard⟩, ?_⟩
  · refine ⟨rfl, ?_, nofun, hback check hcheck, check, ?_, rfl⟩
    · show stage.firstSlot + offset ∈ c.evaluated
      rw [hrange, List.mem_range]
      exact Nat.lt_succ_self _
    · exact (Engine.checks_getElem? hnum hat.stage_eq hoffset).trans hcheck
  · -- A probe that was queued before has another slot: the call still held the guard of this one.
    intro p' hp' hrequest hslot
    have hc' : t.calls[p'.request]? = some c := by
      rw [hrequest]
      exact hc
    have hheld := (h.owns hp' hc').not_held
    rw [hphase, hslot] at hheld
    exact hheld rfl

/-- **Every step keeps the invariant.** -/
theorem Invariant.step (hnum : e.Numbered) (h : t.Invariant e) (hs : Step e t t') :
    t'.Invariant e := by
  cases hs with
  | begin r => exact h.begin hnum r
  | @answer request offset c stage next check points hc hphase hcheck hpoints =>
    have hsound := h.sound request c hc
    refine h.spare hc (becomes_record t _ _ _ _) rfl
      (hsound.answer hnum hphase hcheck hpoints rfl) rfl ?_
    intro i hi _
    have hne := hsound.ne_of_mem hnum hphase hcheck hi
    exact ⟨List.mem_append_left _ hi, nofun, Call.ended_log_of_ne hne, id⟩
  | @lock request offset c stage next check b hc hphase hcheck hpoints hstep =>
    have hsound := h.sound request c hc
    obtain ⟨-, -, hguards, -⟩ := Board.of_step hstep
    refine h.spare hc ⟨rfl, rfl, rfl⟩ rfl (hsound.lock hnum hphase hcheck hpoints rfl hstep) rfl ?_
    intro i hi _
    have hne := hsound.ne_of_mem hnum hphase hcheck hi
    refine ⟨List.mem_append_left _ hi, fun hheld => hne (Option.some.inj hheld).symm, rfl, ?_⟩
    intro hmem
    rw [hguards]
    exact List.mem_append_left _ hmem
  | queue hc hphase hcheck hsubmit => exact h.queue hnum hc hphase hcheck hsubmit
  | @refuse request offset c stage next check reason hc hphase hcheck _ =>
    have hsound := h.sound request c hc
    refine h.spare hc (becomes_setCall rfl rfl) rfl (hsound.refuse hphase check.name reason) rfl ?_
    intro i hi hheld
    rw [hphase] at hheld
    exact ⟨hi, hheld, rfl, id⟩
  | @giveBack request slot c error b hc hphase hstep =>
    have hsound := h.sound request c hc
    refine h.spare hc ⟨rfl, rfl, rfl⟩ rfl (hsound.giveBack hphase hstep) rfl fun i hi hheld => ?_
    rw [hphase] at hheld
    refine ⟨hi, nofun, rfl, hsound.consistent.mem_of_release hstep ?_⟩
    exact fun heq => hheld (congrArg some heq.symm)
  | @enter now request offset c stage next b hc hphase hend hstep =>
    have hsound := h.sound request c hc
    refine h.spare hc ⟨rfl, rfl, rfl⟩ rfl (hsound.enter hnum hphase hend hstep) rfl ?_
    obtain ⟨-, -, hguards, -⟩ := Board.of_step hstep
    exact fun i hi _ => ⟨hi, nofun, rfl, fun hmem => hguards ▸ hmem⟩
  | @attend request a b ha hstep =>
    cases hc : t.calls[request]? with
    | none =>
      rwa [h.setBoard_of_none hc]
    | some c =>
      have hsound := (h.sound request c hc).attend ha hstep
      obtain ⟨-, hguards⟩ := Board.of_isWaiting ha hstep
      refine h.spare hc ⟨rfl, rfl, set_self hc⟩ rfl hsound rfl fun i hi hheld =>
        ⟨hi, hheld, rfl, fun hmem => ?_⟩
      rw [hguards]
      exact hmem
  | @proceed request waiter c stage next result hc hphase hdone =>
    have hsound := h.sound request c hc
    refine h.spare hc (becomes_setCall rfl rfl) rfl (hsound.proceed hnum hphase hdone) rfl ?_
    intro i hi _
    refine ⟨hi, ?_, rfl, id⟩
    show (Engine.afterWait t.bench request stage next result).held? ≠ some i
    rw [held?_afterWait]
    nofun
  | work hnot _ hstep => exact h.work (Pool.happens_of_step hstep) fun p ha => absurd ha (hnot p)
  | @find kind worker p c net hworker hc hnone =>
    have hp := List.mem_of_getElem? hworker
    have hown := h.owns (h.mem_accepted_of_running hp) hc
    obtain ⟨check, hcheck, hkind⟩ := hown.check
    have hself : p = ⟨p.request, p.slot, c.attributes⟩ := by rw [← hown.attributes_eq]
    have hcomes : check.ComesTo p.slot c.attributes (p.find net t.bench).1.points? := by
      rw [hself]
      exact .found net t.bench p.request (hkind ▸ hown.background) (h.checks_eq ▸ hcheck)
    exact h.settle hworker hc hnone hcheck hcomes (h.becomes_find net hworker hc hnone _) rfl
  | @collapse kind worker p c hworker hc hnone =>
    have hown := h.owns (h.mem_accepted_of_running (List.mem_of_getElem? hworker)) hc
    obtain ⟨check, hcheck, hkind⟩ := hown.check
    exact h.settle hworker hc hnone hcheck (.panicked (hkind ▸ hown.background))
      (becomes_setCall rfl rfl) rfl
  | @release kind worker p c b hworker hc hended hstep =>
    have hsound := (h.sound p.request c hc).release hended hstep
    have hconsistent := (h.sound p.request c hc).consistent
    -- The slot of the probe has ended, so no guard is given back that a slot still needs.
    have hkept {i : Nat} (hnone : c.ended i = none) (hmem : i ∈ (t.bench.board p.request).guards) :
        i ∈ b.guards := by
      refine hconsistent.mem_of_release hstep ?_ hmem
      rintro rfl
      rw [hnone] at hended
      cases hended
    refine h.become hc ⟨rfl, rfl, set_self hc⟩ rfl hsound (fun _ _ hown => hown) ?_ ?_
    · exact fun _ _ _ _ _ hnone hmem => ⟨hnone, hkept hnone hmem⟩
    · exact fun _ _ _ _ _ hold hnone => hkept hnone (hold hnone)
  | outside memories now queries subjects =>
    exact ⟨h.checks_eq, h.length_eq, h.sound, h.pools, h.owned, h.nodup, h.queued, h.running⟩

theorem Leads.invariant (hnum : e.Numbered) (h : t.Invariant e) (hl : Leads e t t') :
    t'.Invariant e := by
  induction hl with
  | refl => exact h
  | step _ hs ih => exact ih.step hnum hs

/-- **The invariant holds of whatever can come about.** -/
theorem Reachable.invariant (hnum : e.Numbered) (h : Reachable e t) : t.Invariant e := by
  obtain ⟨memories, now, pools, hosted, hl⟩ := h
  exact hl.invariant hnum (invariant_start e memories now pools hosted)

end Traffic
end MailPolicy
