/-
Decisions are complete, and the schedule does not matter.

A call returns a decision only after every check of the stages that it ran has been dispatched and
has ended, and every probe among them has given its guard back.  So the total is the sum of what
these checks came to on the request, in slot order, and two calls whose checks come to the same
decide the same, whatever else the workers did meanwhile.  A call of which a probe was refused, or
that waited too long, fails and stays so.

* `Call.Failing` — a call is bound to fail;
* `Call.Continues` — what a step, of anyone, leaves of a call;
* `Traffic.Complete` — a decision rests on all checks of the stages it ran;
* `Traffic.decide_complete` — **decisions are complete, independent of the schedule, and a failure
  is final**.
-/
import MailPolicy.Proofs.Engine.Traffic

namespace MailPolicy

/-- Whether a call is bound to fail with a fault of some kind: a probe of it was refused, or it
ran out of time, or it has failed. -/
def Call.Failing (k : FaultKind) (b : Board Float) (c : Call) : Prop :=
  match c.phase with
  | .refused _ error => error.fault.kind = k
  | .waiting _ waiter _ => k = .timeout ∧ ∃ w, b.waiters[waiter]? = some w ∧ w.isLate = true
  | .returned outcome => ∃ f, outcome = .error f ∧ f.kind = k
  | _ => False

namespace Traffic

/-- Whether the check in a slot was dispatched: it answered at once, or its probe was queued. -/
def Dispatched (e : Engine) (t : Traffic) (request : Nat) (c : Call) (slot : Nat) : Prop :=
  (∃ check m now points, e.checks[slot]? = some check ∧
    check.atOnce? m now c.attributes = some points ∧ c.ended slot = some points) ∨
  ∃ kind, ⟨request, slot, c.attributes⟩ ∈ (t.pools kind).accepted

/-- Whether a decision rests on all checks of the stages that it ran and on nothing else. -/
structure Complete (e : Engine) (t : Traffic) (request : Nat) (c : Call) (d : Decision Float) :
    Prop where
  stagesRun_le : d.stagesRun ≤ e.stages.length
  evaluated_eq : c.evaluated = List.range (e.stopAfter d.stagesRun)
  dispatched : ∀ slot < e.stopAfter d.stagesRun, t.Dispatched e request c slot
  ended : ∀ slot < e.stopAfter d.stagesRun, ∃ check points, e.checks[slot]? = some check ∧
    c.ended slot = some points ∧ check.ComesTo slot c.attributes points
  released : (t.bench.board request).writers = 0
  tasks : ∀ kind, ∀ p ∈ (t.pools kind).accepted, p.request = request →
    p.attributes = c.attributes ∧ p.slot < e.stopAfter d.stagesRun ∧ p ∉ (t.pools kind).queue ∧
      (c.ended p.slot).isSome = true ∧ p.slot ∉ (t.bench.board request).guards
  total_eq : d.total = Score.totalBelow c.points (e.stopAfter d.stagesRun)
  outcome : Decision.ofOutcomes e.policy.thresholds e.policy.shortCircuit c.outcomes e.stages = .ok d

end Traffic

/-! ### What a step leaves of a call -/

namespace Call

variable {e : Engine} {t t' : Traffic} {request : Nat} {b b' : Board Float} {c c' : Call}

theorem not_failing_of_evaluating {stage : PlacedStage Check Float} {offset : Nat}
    {next : Float → Plan Check Float (Decision Float)}
    (hphase : c.phase = .evaluating stage offset next)
    (k : FaultKind) : ¬ c.Failing k b := by
  unfold Failing
  rw [hphase]
  exact id

theorem held?_ne (h : c.phase.held? = none) (i : Nat) : c.phase.held? ≠ some i := by
  rw [h]
  exact (Option.some_ne_none i).symm

theorem not_failing_of_submitting {stage : PlacedStage Check Float} {offset : Nat}
    {next : Float → Plan Check Float (Decision Float)}
    (hphase : c.phase = .submitting stage offset next)
    (k : FaultKind) : ¬ c.Failing k b := by
  unfold Failing
  rw [hphase]
  exact id

/-- What a step, of the call itself or of anyone else, leaves of a call. -/
structure Continues (e : Engine) (t' : Traffic) (request : Nat) (b : Board Float) (c : Call)
    (b' : Board Float)
    (c' : Call) : Prop where
  attributes_eq : c'.attributes = c.attributes
  ended_eq : ∀ i, (c.ended i).isSome = true → c'.ended i = c.ended i
  evaluated : ∀ i ∈ c'.evaluated, i ∈ c.evaluated ∧ c.phase.held? ≠ some i ∨
    t'.Dispatched e request c' i ∨
    c'.phase.held? = some i ∨ ∃ k, c'.Failing k b'
  failing : ∀ k, c.Failing k b → c'.Failing k b'

/-- Actions at the score of a call that stands where it stood. -/
theorem Continues.of_waiters (hphase : c'.phase = c.phase)
    (hattributes : c'.attributes = c.attributes)
    (hevaluated : c'.evaluated = c.evaluated)
    (hended : ∀ i, (c.ended i).isSome = true → c'.ended i = c.ended i)
    (hwaiters : ∀ (i : Nat) (w : Waiter), b.waiters[i]? = some w → w.isLate = true →
      ∃ w' : Waiter, b'.waiters[i]? = some w' ∧ w'.isLate = true) :
    c.Continues e t' request b b' c' where
  attributes_eq := hattributes
  ended_eq := hended
  evaluated := by
    intro i hi
    rw [hevaluated] at hi
    by_cases hheld : c.phase.held? = some i
    · exact .inr (.inr (.inl (hphase ▸ hheld)))
    · exact .inl ⟨hi, hheld⟩
  failing := by
    intro k hk
    unfold Failing at hk ⊢
    rw [hphase]
    cases hcase : c.phase with
    | waiting stage waiter next =>
      rw [hcase] at hk
      obtain ⟨rfl, w, hw, hlate⟩ := hk
      exact ⟨rfl, hwaiters waiter w hw hlate⟩
    | evaluating | submitting | refused | returned =>
      rw [hcase] at hk
      exact hk

theorem Continues.of_step {a : BoardAction Float} (hstep : b.step a = some b') :
    c.Continues e t' request b b' c := by
  refine .of_waiters rfl rfl rfl (fun _ _ => rfl) fun i w hw hlate => ?_
  obtain ⟨w', hw', hgoes⟩ := Board.getElem?_waiters_of_step hstep hw
  exact ⟨w', hw', hgoes.isLate hlate⟩

theorem Continues.refl : c.Continues e t' request b b c :=
  .of_waiters rfl rfl rfl (fun _ _ => rfl) fun _ w hw hlate => ⟨w, hw, hlate⟩

end Call

namespace Traffic

variable {e : Engine} {t t' : Traffic} {request : Nat} {c c' : Call} {b' : Board Float}

/-- A change of one call leaves something of every call. -/
theorem Invariant.continues {other : Nat} {d : Call} (hinv : t.Invariant e)
    (hc : t.calls[request]? = some c)
    (h : Becomes t t' request b' c') (hown : c.Continues e t' request (t.bench.board request) b' c')
    (hd : t.calls[other]? = some d) :
    ∃ d', t'.calls[other]? = some d' ∧ d.Continues e t' other (t.bench.board other)
      (t'.bench.board other) d' := by
  rcases eq_or_ne other request with rfl | hne
  · obtain rfl := Option.some.inj (hc.symm.trans hd)
    obtain ⟨hlt, -⟩ := List.getElem?_eq_some_iff.mp hc
    rw [h.board_self (hinv.length_eq ▸ hlt)]
    exact ⟨c', h.call_self hc, hown⟩
  · rw [h.board_of_ne hne]
    exact ⟨d, (h.call_of_ne hne).trans hd, .refl⟩

/-- **What a step leaves of a call.** -/
theorem Step.continues (hnum : e.Numbered) (hinv : t.Invariant e) (hs : Step e t t')
    (hc : t.calls[request]? = some c) :
    ∃ c', t'.calls[request]? = some c' ∧
      c.Continues e t' request (t.bench.board request) (t'.bench.board request) c' := by
  cases hs with
  | begin r =>
    obtain ⟨hlt, -⟩ := List.getElem?_eq_some_iff.mp hc
    refine ⟨c, (List.getElem?_append_left hlt).trans hc, ?_⟩
    rw [Bench.board, Bench.board, List.getElem?_append_left (hinv.length_eq ▸ hlt)]
    exact .refl
  | @answer own offset d stage next check points hd hphase hcheck hpoints =>
    have hsound := hinv.sound own d hd
    obtain ⟨-, -, -, -, -, hget⟩ := hsound.comes hnum hphase hcheck
    have hout : stage.firstSlot + offset ∉ d.evaluated :=
      fun hmem => hsound.ne_of_mem hnum hphase hcheck hmem rfl
    refine hinv.continues hd (becomes_record t _ _ _ _) ?_ hc
    refine ⟨rfl, fun i hi => Call.ended_log_of_isSome (hsound.ended_eq_none hout) hi, ?_, ?_⟩
    · intro i hi
      rcases List.mem_append.mp hi with hold | hnew
      · exact .inl ⟨hold, Call.held?_ne (congrArg Phase.held? hphase) i⟩
      · rw [List.mem_singleton.mp hnew]
        exact .inr (.inl (.inl ⟨check, _, _, points, hget, hpoints, Call.ended_log_self⟩))
    · exact fun k hk => absurd hk (Call.not_failing_of_evaluating hphase k)
  | @lock own offset d stage next check b hd hphase _ _ _ =>
    refine hinv.continues hd ⟨rfl, rfl, rfl⟩ ⟨rfl, fun _ _ => rfl, ?_, ?_⟩ hc
    · intro i hi
      rcases List.mem_append.mp hi with hold | hnew
      · exact .inl ⟨hold, Call.held?_ne (congrArg Phase.held? hphase) i⟩
      · rw [List.mem_singleton.mp hnew]
        exact .inr (.inr (.inl rfl))
    · exact fun k hk => absurd hk (Call.not_failing_of_evaluating hphase k)
  | @queue own offset d stage next check q hd hphase _ hsubmit =>
    refine hinv.continues hd (becomes_setCall rfl rfl) ⟨rfl, fun _ _ => rfl, ?_, ?_⟩ hc
    · intro i hi
      by_cases hheld : d.phase.held? = some i
      · -- The probe whose guard the call held is now in the pool.
        refine .inr (.inl (.inr ⟨check.kind, ?_⟩))
        rw [hphase] at hheld
        obtain rfl := Option.some.inj hheld
        show _ ∈ ((t.setPool check.kind q).pools check.kind).accepted
        rw [pools_setPool_self, Pool.accepted_submit hsubmit]
        exact List.mem_concat_self
      · exact .inl ⟨hi, hheld⟩
    · exact fun k hk => absurd hk (Call.not_failing_of_submitting hphase k)
  | @refuse own offset d stage next check reason hd hphase _ _ =>
    refine hinv.continues hd (becomes_setCall rfl rfl) ⟨rfl, fun _ _ => rfl, ?_, ?_⟩ hc
    · intro i hi
      by_cases hheld : d.phase.held? = some i
      · rw [hphase] at hheld
        exact .inr (.inr (.inl hheld))
      · exact .inl ⟨hi, hheld⟩
    · exact fun k hk => absurd hk (Call.not_failing_of_submitting hphase k)
  | @giveBack own slot d error b hd hphase _ =>
    refine hinv.continues hd ⟨rfl, rfl, rfl⟩ ⟨rfl, fun _ _ => rfl, ?_, ?_⟩ hc
    · exact fun _ _ => .inr (.inr (.inr ⟨error.fault.kind, error.fault, rfl, rfl⟩))
    · intro k hk
      unfold Call.Failing at hk
      rw [hphase] at hk
      exact ⟨error.fault, rfl, hk⟩
  | @enter now own offset d stage next b hd hphase _ _ =>
    refine hinv.continues hd ⟨rfl, rfl, rfl⟩ ⟨rfl, fun _ _ => rfl, ?_, ?_⟩ hc
    · exact fun i hi => .inl ⟨hi, Call.held?_ne (congrArg Phase.held? hphase) i⟩
    · exact fun k hk => absurd hk (Call.not_failing_of_evaluating hphase k)
  | @attend own a b ha hstep =>
    cases hd : t.calls[own]? with
    | none =>
      rw [hinv.setBoard_of_none hd]
      exact ⟨c, hc, .refl⟩
    | some d => exact hinv.continues hd ⟨rfl, rfl, set_self hd⟩ (.of_step hstep) hc
  | @proceed own waiter d stage next result hd hphase hdone =>
    refine hinv.continues hd (becomes_setCall rfl rfl) ⟨rfl, fun _ _ => rfl, ?_, ?_⟩ hc
    · exact fun i hi => .inl ⟨hi, Call.held?_ne (congrArg Phase.held? hphase) i⟩
    · intro k hk
      unfold Call.Failing at hk
      rw [hphase] at hk
      obtain ⟨rfl, w, hw, hlate⟩ := hk
      obtain rfl := Option.some.inj (hdone.symm.trans hw)
      cases result with
      | quiet => cases hlate
      | timeout writers limit => exact ⟨_, rfl, rfl⟩
  | work _ _ _ => exact ⟨c, hc, .refl⟩
  | @find kind worker p d net hworker hd hnone =>
    refine hinv.continues hd (hinv.becomes_find net hworker hd hnone _) ?_ hc
    exact .of_waiters rfl rfl rfl (fun i hi => Call.ended_log_of_isSome hnone hi)
      fun _ w hw hlate => ⟨w, hw, hlate⟩
  | @collapse kind worker p d hworker hd hnone =>
    refine hinv.continues hd (becomes_setCall rfl rfl) ?_ hc
    exact .of_waiters rfl rfl rfl (fun i hi => Call.ended_log_of_isSome hnone hi)
      fun _ w hw hlate => ⟨w, hw, hlate⟩
  | @release kind worker p d b hworker hd _ hstep =>
    exact hinv.continues hd ⟨rfl, rfl, set_self hd⟩ (.of_step hstep) hc
  | outside memories now queries subjects => exact ⟨c, hc, .refl⟩

theorem Step.accepted_subset (hs : Step e t t') (kind : CheckKind) :
    (t.pools kind).accepted ⊆ (t'.pools kind).accepted := by
  cases hs with
  | @queue own offset d stage next check q _ _ _ hsubmit =>
    show _ ⊆ ((t.setPool check.kind q).pools kind).accepted
    rcases eq_or_ne kind check.kind with rfl | hne
    · rw [pools_setPool_self, Pool.accepted_submit hsubmit]
      exact List.subset_append_left _ _
    · rw [pools_setPool_of_ne hne]
      exact List.Subset.refl _
  | @work own a q _ _ hstep =>
    show _ ⊆ ((t.setPool own q).pools kind).accepted
    rcases eq_or_ne kind own with rfl | hne
    · rw [pools_setPool_self]
      rcases (Pool.happens_of_step hstep).accepted_eq with heq | ⟨p, -, heq⟩
      · rw [heq]
        exact List.Subset.refl _
      · rw [heq]
        exact List.subset_append_left _ _
    · rw [pools_setPool_of_ne hne]
      exact List.Subset.refl _
  | _ => exact List.Subset.refl _

/-- Calls come one by one, and none goes. -/
theorem Step.calls_eq (hs : Step e t t') :
    t'.calls.length = t.calls.length ∨
      ∃ r, t'.calls = t.calls ++ [{ attributes := r, phase := .ofPlan e.plan }] := by
  cases hs with
  | begin r => exact .inr ⟨r, rfl⟩
  | work _ _ _ | attend _ _ | release _ _ _ _ | outside _ _ _ _ => exact .inl rfl
  | _ => exact .inl List.length_set

/-- Whether every check that a call has evaluated was dispatched, unless the call is about to do
so or bound to fail. -/
def Dispatches (e : Engine) (t : Traffic) : Prop :=
  ∀ request (c : Call), t.calls[request]? = some c → ∀ i ∈ c.evaluated,
    t.Dispatched e request c i ∨ c.phase.held? = some i ∨ ∃ k, c.Failing k (t.bench.board request)

theorem Dispatches.step (hnum : e.Numbered) (hinv : t.Invariant e) (h : t.Dispatches e)
    (hs : Step e t t') :
    t'.Dispatches e := by
  intro request c' hc' i hi
  cases hc : t.calls[request]? with
  | none =>
    -- The call has just begun, so it has evaluated nothing.
    have hge := List.getElem?_eq_none_iff.mp hc
    obtain ⟨hlt, -⟩ := List.getElem?_eq_some_iff.mp hc'
    rcases hs.calls_eq with hlength | ⟨r, heq⟩
    · omega
    · rw [heq, List.length_append, List.length_singleton] at hlt
      obtain rfl : request = t.calls.length := by omega
      rw [heq, List.getElem?_concat_length] at hc'
      rw [← Option.some.inj hc'] at hi
      cases hi
  | some c =>
    obtain ⟨d, hd, hcontinues⟩ := hs.continues hnum hinv hc
    obtain rfl := Option.some.inj (hc'.symm.trans hd)
    rcases hcontinues.evaluated i hi with ⟨hold, hheld⟩ | hnew
    · rcases h request c hc i hold with hdispatched | hheld' | ⟨k, hk⟩
      · left
        unfold Dispatched
        rw [hcontinues.attributes_eq]
        rcases hdispatched with ⟨check, m, now, points, hcheck, hpoints, hended⟩ | ⟨kind, hmem⟩
        · refine .inl ⟨check, m, now, points, hcheck, hpoints, ?_⟩
          rw [hcontinues.ended_eq i (by rw [hended]; rfl), hended]
        · exact .inr ⟨kind, hs.accepted_subset kind hmem⟩
      · exact absurd hheld' hheld
      · exact .inr (.inr ⟨k, hcontinues.failing k hk⟩)
    · exact hnew

/-! ### Runs -/

theorem Reachable.dispatches (hnum : e.Numbered) (h : Reachable e t) : t.Dispatches e := by
  obtain ⟨memories, now, pools, hosted, hl⟩ := h
  induction hl with
  | refl => exact fun _ _ hc => by cases hc
  | step hl hs ih =>
    exact ih.step hnum (Reachable.invariant hnum ⟨memories, now, pools, hosted, hl⟩) hs

/-- A call that is bound to fail stays so. -/
theorem Leads.failing {k : FaultKind} (hnum : e.Numbered) (hinv : t.Invariant e) (hl : Leads e t t')
    (hc : t.calls[request]? = some c) (hk : c.Failing k (t.bench.board request)) :
    ∃ c', t'.calls[request]? = some c' ∧ c'.Failing k (t'.bench.board request) := by
  induction hl with
  | refl => exact ⟨c, hc, hk⟩
  | step hl hs ih =>
    obtain ⟨d, hd, hd'⟩ := ih
    obtain ⟨d', hcall, hcontinues⟩ := hs.continues hnum (hl.invariant hnum hinv) hd
    exact ⟨d', hcall, hcontinues.failing k hd'⟩

/-- A call that is bound to fail can return without anyone else. -/
theorem Invariant.returns {k : FaultKind} (h : t.Invariant e) (hc : t.calls[request]? = some c)
    (hk : c.Failing k (t.bench.board request)) :
    ∃ t' c' f, Leads e t t' ∧ t'.calls[request]? = some c' ∧ c'.phase = .returned (.error f) := by
  have hsound := h.sound request c hc
  unfold Call.Failing at hk
  obtain ⟨hlt, -⟩ := List.getElem?_eq_some_iff.mp hc
  cases hphase : c.phase with
  | evaluating | submitting =>
    rw [hphase] at hk
    exact hk.elim
  | refused slot error =>
    obtain ⟨hguard, -⟩ := hsound.stands_of hphase
    have hstep : (t.bench.board request).step (.release slot) = some _ := if_pos hguard
    have hback : Step e t _ := .giveBack hc hphase hstep
    exact ⟨_, _, error.fault, .step .refl hback, List.getElem?_set_self hlt, rfl⟩
  | waiting stage waiter next =>
    rw [hphase] at hk
    obtain ⟨-, w, hw, hlate⟩ := hk
    cases w with
    | registered limit due signalled | parked limit due signalled => cases hlate
    | done result =>
      cases result with
      | quiet => cases hlate
      | timeout writers limit =>
        exact ⟨_, _, _, .step .refl (.proceed hc hphase hw), List.getElem?_set_self hlt, rfl⟩
    | expired limit =>
      -- The waiter reports first, and then the call goes on.
      obtain ⟨b, hstep, hb⟩ : ∃ b, (t.bench.board request).step (.report waiter) = some b ∧
          b.waiters[waiter]? = some (.done (.timeout (t.bench.board request).writers limit)) := by
        obtain ⟨hwaiter, -⟩ := List.getElem?_eq_some_iff.mp hw
        refine ⟨(t.bench.board request).setWaiter waiter _, ?_, List.getElem?_set_self hwaiter⟩
        rw [Board.step, hw]
      have hreport : Step e t (t.setBoard request b) := .attend rfl hstep
      have hboard : (t.setBoard request b).bench.board request = b :=
        Bench.board_setBoard_self (h.length_eq ▸ hlt)
      exact ⟨_, _, _, .step (.step .refl hreport) (.proceed hc hphase (hboard ▸ hb)),
        List.getElem?_set_self hlt, rfl⟩
  | returned outcome =>
    rw [hphase] at hk
    obtain ⟨f, rfl, -⟩ := hk
    exact ⟨t, c, f, .refl, hc, hphase⟩

theorem Invariant.kind_of_failing {k : FaultKind} (h : t.Invariant e)
    (hc : t.calls[request]? = some c)
    (hk : c.Failing k (t.bench.board request)) : k = .exhausted ∨ k = .timeout := by
  have hsound := h.sound request c hc
  unfold Call.Failing at hk
  cases hphase : c.phase with
  | evaluating | submitting =>
    rw [hphase] at hk
    exact hk.elim
  | refused slot error =>
    rw [hphase] at hk
    obtain ⟨-, -, hkind⟩ := hsound.stands_of hphase
    exact .inl (hk.symm.trans hkind)
  | waiting stage waiter next =>
    rw [hphase] at hk
    exact .inr hk.1
  | returned outcome =>
    rw [hphase] at hk
    obtain ⟨f, rfl, rfl⟩ := hk
    exact hsound.stands_of hphase

/-- A decision rests on all checks of the stages that it ran. -/
theorem Reachable.complete {d : Decision Float} (hnum : e.Numbered) (h : Reachable e t)
    (hc : t.calls[request]? = some c) (hd : c.phase = .returned (.ok d)) :
    t.Complete e request c d := by
  have hinv := h.invariant hnum
  have hsound := hinv.sound request c hc
  obtain ⟨hdecides, hle, hrange, htotal, hnil⟩ := hsound.stands_of hd
  have hmem {slot : Nat} (hslot : slot < e.stopAfter d.stagesRun) : slot ∈ c.evaluated :=
    hrange ▸ List.mem_range.mpr hslot
  have hended {slot : Nat} (hslot : slot ∈ c.evaluated) : (c.ended slot).isSome = true := by
    refine (hsound.ended_or_guard (fun f hf => ?_) slot hslot).resolve_right ?_
    · rw [hd] at hf
      cases hf
    · rw [hnil]
      exact List.not_mem_nil
  -- A call that has returned a decision holds no guard and is not bound to fail.
  refine ⟨hle, hrange, ?_, ?_, ?_, ?_, htotal, hdecides c.outcomes ⟨fun _ => rfl, fun _ _ => rfl⟩⟩
  · intro slot hslot
    rcases h.dispatches hnum request c hc slot (hmem hslot) with hdispatched | hheld | ⟨k, hk⟩
    · exact hdispatched
    · rw [hd] at hheld
      cases hheld
    · unfold Call.Failing at hk
      rw [hd] at hk
      obtain ⟨f, hf, -⟩ := hk
      cases hf
  · intro slot hslot
    obtain ⟨points, hpoints⟩ := Option.isSome_iff_exists.mp (hended (hmem hslot))
    obtain ⟨check, hcheck, hcomes⟩ := hsound.comesTo slot points hpoints
    exact ⟨check, points, hcheck, hpoints, hcomes⟩
  · rw [hsound.consistent.writers_eq, hnil]
    rfl
  · intro kind p hp hrequest
    have hown := hinv.owns hp (hrequest ▸ hc)
    have hsome := hended hown.mem_evaluated
    refine ⟨hown.attributes_eq, ?_, fun hqueue => ?_, hsome, hnil ▸ List.not_mem_nil⟩
    · exact List.mem_range.mp (hrange ▸ hown.mem_evaluated)
    · rw [(hinv.queued kind p hqueue c (hrequest ▸ hc)).1] at hsome
      cases hsome

/-- Decisions that rest on the same outcomes are the same. -/
theorem Complete.unique {request' : Nat} {d d' : Decision Float} (h : t.Complete e request c d)
    (h' : t'.Complete e request' c' d') (hdecides : e.Decides c.points d)
    (hsame : ∀ slot x x', c.ended slot = some x → c'.ended slot = some x' → x = x')
    (hle : d.stagesRun ≤ d'.stagesRun) : d = d' := by
  have hextends : Engine.Outcomes.Extends c'.outcomes c.points (e.stopAfter d.stagesRun) := by
    refine ⟨fun _ => rfl, fun slot hslot => ?_⟩
    obtain ⟨_, x, _, hx, -⟩ := h.ended slot hslot
    obtain ⟨_, x', _, hx', -⟩ := h'.ended slot (Nat.lt_of_lt_of_le hslot (e.stopAfter_mono hle))
    show (c'.ended slot).join = (c.ended slot).join
    rw [hx, hx', hsame slot x x' hx hx']
  exact Except.ok.inj ((hdecides c'.outcomes hextends).symm.trans h'.outcome)

/-- **Decisions are complete and do not depend on the schedule, and a failure is final.**
Whatever has come about by the steps of all calls and workers, a decision that a call has returned
rests on all checks of the stages that it ran; it is the decision of any call, under any schedule,
whose checks came to the same; and a call of which a probe was refused or that ran out of time
returns a fault, which is answered with the text for errors. -/
theorem decide_complete {stages : List (Stage Check)}
    (hstages : e.stages = Stage.layout Check.bounds stages)
    (h : Reachable e t) (hc : t.calls[request]? = some c) :
    (∀ d, c.phase = .returned (.ok d) → t.Complete e request c d) ∧
    (∀ d t' (request' : Nat) (c' : Call) d', c.phase = .returned (.ok d) →
      Reachable e t' → t'.calls[request']? = some c' → c'.phase = .returned (.ok d') →
      (∀ slot x x', c.ended slot = some x → c'.ended slot = some x' → x = x') →
      d = d') ∧
    ∀ k, c.Failing k (t.bench.board request) →
      (k = .exhausted ∨ k = .timeout) ∧
      (∀ t', Leads e t t' → ∃ c' : Call, t'.calls[request]? = some c' ∧
        ∀ outcome, c'.phase = .returned outcome →
          ∃ f, outcome = .error f ∧ f.kind = k ∧ e.responses.answer outcome = e.responses.error) ∧
      ∃ t' c' f, Leads e t t' ∧ t'.calls[request]? = some c' ∧
        Call.phase c' = .returned (.error f) := by
  have hnum := Engine.numbered_of_layout hstages
  have hinv := h.invariant hnum
  have hdecides {t : Traffic} {request : Nat} {c : Call} {d : Decision Float} (h : Reachable e t)
      (hc : t.calls[request]? = some c) (hd : c.phase = .returned (.ok d)) : e.Decides c.points d :=
    (((h.invariant hnum).sound request c hc).stands_of hd).1
  refine ⟨fun d hd => h.complete hnum hc hd, ?_, ?_⟩
  · intro d t' request' c' d' hd h' hc' hd' hsame
    have hcomplete := h.complete hnum hc hd
    have hcomplete' := h'.complete hnum hc' hd'
    rcases Nat.le_total d.stagesRun d'.stagesRun with hle | hle
    · exact hcomplete.unique hcomplete' (hdecides h hc hd) hsame hle
    · refine (hcomplete'.unique hcomplete (hdecides h' hc' hd') ?_ hle).symm
      exact fun slot x' x hx' hx => (hsame slot x x' hx hx').symm
  · intro k hk
    refine ⟨hinv.kind_of_failing hc hk, fun t' hl => ?_, hinv.returns hc hk⟩
    obtain ⟨c', hc', hk'⟩ := hl.failing hnum hinv hc hk
    refine ⟨c', hc', fun outcome hreturned => ?_⟩
    unfold Call.Failing at hk'
    rw [hreturned] at hk'
    obtain ⟨f, rfl, hf⟩ := hk'
    exact ⟨f, rfl, hf, rfl⟩

/-- One stage with a sender policy check. -/
def onePolicy : List (Stage Check) :=
  [⟨"stage1".toList, [.senderPolicy { name := "spf".toList, weights := ⟨-1, 5, 2, 0, 0, 0⟩ }]⟩]

/-- An engine with one sender policy check. -/
def onePolicyEngine : Engine where
  stages := Stage.layout Check.bounds onePolicy
  policy := { shortCircuit := false }
  responses := {}

/-- A request that is decided after a worker has run its probe. -/
theorem decide_complete_of_probe : ∃ (t : Traffic) (c : Call) (d : Decision Float),
    Reachable onePolicyEngine t ∧ t.calls[0]? = some c ∧ c.phase = .returned (.ok d) ∧
      (t.pools .spf).accepted ≠ [] ∧ t.Complete onePolicyEngine 0 c d := by
  let r : Request := .ofList [("client_address".toList, "192.0.2.1".toList)]
  let net : Network := { listed := fun _ => .never, policy := fun _ _ => .pass }
  let free (t : Traffic) : t.EndsReleased .spf (.look 0 0) :=
    fun _ _ h => by rcases h with h | h <;> cases h
  have hbegin : Leads onePolicyEngine (start onePolicyEngine [] 0 (fun _ => {}) true) _ :=
    .step .refl (.begin r)
  have hlock : Leads onePolicyEngine _ _ :=
    .step hbegin (@Step.lock _ _ 0 0 _ _ _ _ _ rfl rfl rfl rfl rfl)
  have hqueue : Leads onePolicyEngine _ _ :=
    .step hlock (@Step.queue _ _ 0 0 _ _ _ _ _ rfl rfl rfl rfl)
  have hlook : Leads onePolicyEngine _ _ :=
    .step hqueue (@Step.work _ _ .spf (.look 0 0) _ (fun _ => nofun) (free _) rfl)
  have hfind : Leads onePolicyEngine _ _ := .step hlook (@Step.find _ _ .spf 0 _ _ net rfl rfl rfl)
  have hrelease : Leads onePolicyEngine _ _ :=
    .step hfind (@Step.release _ _ .spf 0 _ _ _ rfl rfl rfl rfl)
  have henter : Leads onePolicyEngine _ _ :=
    .step hrelease (@Step.enter _ _ 0 0 1 _ _ _ _ rfl rfl rfl rfl)
  have hread : Leads onePolicyEngine _ _ := .step henter (@Step.attend _ _ 0 (.read 0) _ rfl rfl)
  have hproceed : Leads onePolicyEngine _ _ :=
    .step hread (@Step.proceed _ _ 0 0 _ _ _ _ rfl rfl rfl)
  have hreachable : Reachable onePolicyEngine _ := ⟨[], 0, fun _ => {}, true, hproceed⟩
  have hstages : onePolicyEngine.stages = Stage.layout Check.bounds onePolicy := rfl
  exact ⟨_, _, _, hreachable, rfl, rfl, nofun, (decide_complete hstages hreachable rfl).1 _ rfl⟩

end Traffic
end MailPolicy
