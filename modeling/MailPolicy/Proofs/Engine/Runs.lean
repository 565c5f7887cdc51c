/-
The runs of the engine.

Whatever the engine does from its first state on, some traffic does the same: it begins decisions,
carries them on until they wait, resumes them, or decides in one go while the workers take their
turns.

* `Mirrors.carryOn` — a decision that goes on until it waits or is over;
* `Mirrors.start`, `Mirrors.resume` — its beginning, and its resumption;
* `Mirrors.decide` — **a decision in one go is that of a call in some traffic**.
-/
import MailPolicy.Proofs.Engine.Simulation

namespace MailPolicy

/-! ### Those who have parked -/

namespace Bench

variable {b : Bench} {request waiter due : Nat} {limit : Span}

theorem lt_of_parked (h : (b.board request).Parked waiter due limit) :
    request < b.boards.length := by
  by_contra hge
  obtain ⟨signalled, hw⟩ := h
  rw [board, List.getElem?_eq_none (Nat.le_of_not_lt hge)] at hw
  cases hw

theorem parked_setBoard {other : Nat} {s : Board Float}
    (h : (b.board request).Parked waiter due limit)
    (hs : (b.board other).Parked waiter due limit → s.Parked waiter due limit) :
    ((b.setBoard other s).board request).Parked waiter due limit := by
  rcases eq_or_ne request other with rfl | hne
  · rw [board_setBoard_self (lt_of_parked h)]
    exact hs h
  · rwa [board_setBoard_of_ne hne]

/-- Workers leave those who have parked where they are. -/
theorem keeps_parked (net : Network) (request waiter due : Nat) (limit : Span) :
    Crew.Keeps (Probe.handler net) fun _ b => (b.board request).Parked waiter due limit where
  act := fun _ _ _ _ _ _ h => h
  start := by
    intro pool b now worker p _ h
    obtain ⟨queries, hstart⟩ := p.start_eq net b now
    show ((p.start net b now).2.board request).Parked waiter due limit
    rw [hstart]
    exact h
  finish := by
    intro pool b worker p _ h
    obtain ⟨subjects, hfind⟩ := p.find_eq net b
    have hfound : ((p.find net b).2.board request).Parked waiter due limit := by
      rw [hfind]
      exact h
    have hsettled :
        (((p.find net b).2.settleFinding p.request p.slot (p.find net b).1).board request).Parked
          waiter due limit := by
      cases (p.find net b).1 with
      | points x => exact parked_setBoard hfound fun hboard => hboard.attempt rfl
      | neutral => exact hfound
      | failure => exact hfound
    exact parked_setBoard hsettled fun hboard =>
      (hboard.attempt (a := .release p.slot) rfl).attempt rfl

end Bench

namespace EngineState

variable {s : EngineState} {request waiter due : Nat} {limit : Span}

theorem parked_settleCrews {b : Bench} (net : Network) (clock : Nat)
    (crews : List (CheckKind × Crew Probe))
    (h : (b.board request).Parked waiter due limit) :
    ((settleCrews net clock crews b).2.board request).Parked waiter due limit := by
  induction crews generalizing b with
  | nil => exact h
  | cons first rest ih =>
    exact ih ((Bench.keeps_parked net request waiter due limit).settle clock h)

theorem parked_settle (net : Network) (h : (s.bench.board request).Parked waiter due limit) :
    ((s.settle net).bench.board request).Parked waiter due limit :=
  parked_settleCrews net s.clock s.crews h

theorem board_advanceWaiter (hlt : request < s.bench.boards.length) :
    (s.advanceWaiter request waiter).bench.board request =
      Board.advanceWaiter s.clock (s.bench.board request) waiter := Bench.board_setBoard_self hlt

/-- A waiter that has gone on and is not done has parked, and its time is not up. -/
theorem parked_of_rests (h : (s.bench.board request).Rests s.clock waiter due limit)
    (hwaited : (s.waited? request waiter).isSome ≠ true) :
    (s.bench.board request).Parked waiter due limit ∧ s.clock < due := by
  cases h with
  | parked hw hlt => exact ⟨⟨false, hw⟩, hlt⟩
  | done result hw =>
    refine absurd ?_ hwaited
    rw [waited?, hw]
    rfl

end EngineState

/-! ### Stages -/

/-- The state in which the call of a request has begun to wait. -/
def EngineState.enter (s : EngineState) (request : Nat) (limit : Span) : EngineState :=
  { s with
    bench := s.bench.setBoard request
      ((s.bench.board request).attempt (.enter limit (s.clock + limit.millis))) }

/-- The state in which that call has gone on as far as possible. -/
def EngineState.beginWait (s : EngineState) (request : Nat) (limit : Span) : EngineState :=
  (s.enter request limit).advanceWaiter request (s.bench.board request).waiters.length

namespace EngineState

variable {s : EngineState} {request : Nat}

/-- Someone who has begun to wait has parked, and its time is not up, or is done. -/
theorem rests_beginWait (limit : Span) (hlt : request < s.bench.boards.length) :
    ((s.beginWait request limit).bench.board request).Rests (s.beginWait request limit).clock
      (s.bench.board request).waiters.length (s.clock + limit.millis) limit := by
  have hboard : (s.enter request limit).bench.board request =
      (s.bench.board request).attempt (.enter limit (s.clock + limit.millis)) :=
        Bench.board_setBoard_self hlt
  have hlt' : request < (s.enter request limit).bench.boards.length := by
    rwa [enter, Bench.setBoard, List.length_set]
  rw [beginWait, board_advanceWaiter hlt', hboard]
  exact Board.rests_advanceWaiter (.inl List.getElem?_concat_length)

/-- A wait begins, and time passes unless it is over at once. -/
theorem wait_eq (net : Network) (limit : Span) (s' : EngineState)
    (hs' : s' = if ((s.beginWait request limit).waited? request
      (s.bench.board request).waiters.length).isSome
      then s.beginWait request limit
      else (s.beginWait request limit).passTime net request (s.bench.board request).waiters.length
        (s.clock + limit.millis)) :
    s.wait net request limit =
      ((s'.waited? request (s.bench.board request).waiters.length).getD .quiet, s') := by
  rw [hs']
  rfl

end EngineState

/-- How a decision goes on when the checks of a stage have been evaluated. -/
theorem Engine.carryOn_evaluate {e : Engine} {request : Nat} {r : Request}
    {stage : PlacedStage Check Float}
    {next : Float → Plan Check Float (Decision Float)} {s s₁ : EngineState}
    (h : EngineState.evaluateAll request stage.firstSlot r stage.stage.checks s = (.ok (), s₁)) :
    e.carryOn request r (.evaluate stage next) s =
      if (s₁.beginWait request e.stageLimit).waited? request
        (s₁.bench.board request).waiters.length = some .quiet then
        e.carryOn request r (next
          ((s₁.beginWait request e.stageLimit).bench.board request).score.total)
          (s₁.beginWait request e.stageLimit)
      else
        (.waits ⟨request, r, (s₁.bench.board request).waiters.length,
          s₁.clock + e.stageLimit.millis,
          stage.stage.name, next⟩, s₁.beginWait request e.stageLimit) := by
  rw [carryOn, h]
  dsimp only
  split
  · next hresult => exact (if_pos hresult).symm
  · next hresult => exact (if_neg hresult).symm

/-- A plan is carried out with the total after its first stage, or the fault that the stage ends
in. -/
theorem Engine.carryOut_evaluate {e : Engine} {net : Network} {request : Nat} {r : Request}
    {stage : PlacedStage Check Float} {next : Float → Plan Check Float (Decision Float)}
    {s : EngineState} :
    (Plan.evaluate stage next).carryOut (e.runStage net request r) s =
      match e.runStage net request r stage s with
      | (.ok total, s') => (next total).carryOut (e.runStage net request r) s'
      | (.error f, s') => (.error f, s') := by
  show ExceptT.bindCont (fun total => (next total).carryOut (e.runStage net request r))
    (e.runStage net request r stage s).1 (e.runStage net request r stage s).2 = _
  rcases e.runStage net request r stage s with ⟨⟨f⟩ | ⟨total⟩, s'⟩ <;> rfl

namespace Mirrors

variable {e : Engine} {s s' : EngineState} {t t' : Traffic} {request offset waiter : Nat}
  {r : Request} {phase : Phase}
  {stage : PlacedStage Check Float} {next : Float → Plan Check Float (Decision Float)}

/-! ### Waiting -/

theorem lt_boards (hnum : e.Numbered) (hm : Mirrors e s t)
    (hstanding : t.standing? request = some (r, phase)) :
    request < s.bench.boards.length := by
  obtain ⟨c, hc, -, -⟩ := exists_call hstanding
  rw [← hm.bench_eq, (hm.reachable.invariant hnum).length_eq]
  exact (List.getElem?_eq_some_iff.mp hc).1

/-- Time passes. -/
theorem at_clock (hm : Mirrors e s t) (clock : Nat) : Mirrors e { s with clock := clock } t :=
  ⟨hm.reachable, hm.pending, hm.bench_eq, hm.pools_eq, hm.nodup, hm.manned⟩

/-- Someone who waits goes on as far as possible. -/
theorem advanceWaiter (hnum : e.Numbered) (hm : Mirrors e s t) (waiter : Nat)
    (hstanding : t.standing? request = some (r, phase)) :
    ∃ t', Advances e (s.advanceWaiter request waiter) request r phase t t' := by
  have hlt := hm.lt_boards hnum hstanding
  rw [← hm.bench_eq] at hlt
  have hleads := Traffic.leads_attemptAll (e := e) hlt
    [.wake waiter, .read waiter, .expire waiter s.clock, .report waiter]
      (by simp [BoardAction.isWaiting])
  refine ⟨_, hleads, hm.of_leads hleads hm.pending ?_ rfl rfl, hstanding, fun _ _ => rfl⟩
  rw [EngineState.advanceWaiter, ← hm.bench_eq]
  rfl

/-- A call that has evaluated all checks of a stage starts to wait. -/
theorem enter (hnum : e.Numbered) (hm : Mirrors e s t)
    (hstanding : t.standing? request = some (r, .evaluating stage offset next))
    (hcheck : stage.stage.checks[offset]? = none) :
    ∃ t', Advances e (s.enter request e.stageLimit) request r
      (.waiting stage (s.bench.board request).waiters.length next) t t' := by
  obtain ⟨c, hc, rfl, hphase⟩ := exists_call hstanding
  rw [EngineState.enter, ← hm.bench_eq]
  have hstep : Traffic.Step e t _ := .enter s.clock hc hphase hcheck rfl
  refine ⟨_, .step .refl hstep, hm.of_leads (.step .refl hstep) ?_ rfl rfl rfl,
    standing?_set_self hc rfl rfl rfl,
    fun other hne => standing?_set_of_ne rfl hne⟩
  exact pending_set (hm.reachable.invariant hnum) hm.pending hc rfl rfl fun _ _ => rfl

/-- A call that has waited to the end goes on. -/
theorem proceed {result : WaitResult} (hnum : e.Numbered) (hm : Mirrors e s t)
    (hstanding : t.standing? request = some (r, .waiting stage waiter next))
    (hresult : s.waited? request waiter = some result) :
    ∃ t', Advances e s request r (Engine.afterWait s.bench request stage next result) t t' := by
  obtain ⟨c, hc, rfl, hphase⟩ := exists_call hstanding
  have hdone : (t.bench.board request).waiters[waiter]? = some (.done result) := by
    rw [hm.bench_eq]
    obtain ⟨w, hw, hresult⟩ := Option.bind_eq_some_iff.mp hresult
    rw [hw, Waiter.eq_done_of_result? hresult]
  have hstep : Traffic.Step e t _ := .proceed hc hphase hdone
  rw [← hm.bench_eq]
  refine ⟨_, .step .refl hstep, hm.of_leads (.step .refl hstep) ?_ hm.bench_eq rfl rfl,
    standing?_set_self hc rfl rfl rfl, fun other hne => standing?_set_of_ne rfl hne⟩
  exact pending_set (hm.reachable.invariant hnum) hm.pending hc rfl rfl fun _ _ => rfl

/-- A call that has evaluated all checks of a stage starts to wait, and goes on as far as
possible. -/
theorem beginWait (hnum : e.Numbered) (hm : Mirrors e s t)
    (hstanding : t.standing? request =
      some (r, .evaluating stage (0 + stage.stage.checks.length) next)) :
    ∃ t', Advances e (s.beginWait request e.stageLimit) request r
      (.waiting stage (s.bench.board request).waiters.length next) t t' := by
  have hnone : stage.stage.checks[0 + stage.stage.checks.length]? = none := by
    rw [Nat.zero_add]
    exact List.getElem?_eq_none (Nat.le_refl _)
  obtain ⟨u, hu⟩ := hm.enter hnum hstanding hnone
  obtain ⟨t', ht'⟩ := hu.mirrors.advanceWaiter hnum (s.bench.board request).waiters.length
    hu.standing_self
  exact ⟨t', hu.trans ht'⟩

/-! ### Decisions in pieces -/

/-- Whether a decision has come as far as its call. -/
def Meets (request : Nat) (r : Request) (phase : Phase) : Progress → Prop
  | .over outcome => phase = .returned outcome
  | .waits w => w.request = request ∧ w.attributes = r ∧
      ∃ stage, w.stage = stage.stage.name ∧ phase = .waiting stage w.waiter w.next

/-- **A decision is carried on until it waits or is over.** -/
theorem carryOn (hnum : e.Numbered) (plan : Plan Check Float (Decision Float)) (hm : Mirrors e s t)
    (hstanding : t.standing? request = some (r, .ofPlan plan)) :
    ∃ t' phase, Meets request r phase (e.carryOn request r plan s).1 ∧
      Advances e (e.carryOn request r plan s).2 request r phase t t' := by
  induction plan generalizing s t with
  | done d => exact ⟨t, _, rfl, .refl hm hstanding⟩
  | evaluate stage next ih =>
    obtain ⟨u, hu⟩ := hm.evaluateAll hnum hstanding List.drop_zero
    rw [Nat.add_zero] at hu
    rcases hchecks : EngineState.evaluateAll request stage.firstSlot r stage.stage.checks s
      with ⟨⟨err⟩ | ⟨⟩, s₁⟩
    · rw [hchecks] at hu
      rw [Engine.carryOn, hchecks]
      exact ⟨u, _, rfl, hu⟩
    · rw [hchecks] at hu
      obtain ⟨v, hv⟩ := hu.mirrors.beginWait hnum hu.standing_self
      rw [Engine.carryOn_evaluate hchecks]
      split
      · next hquiet =>
        obtain ⟨w, hw⟩ := hv.mirrors.proceed hnum hv.standing_self hquiet
        obtain ⟨t', phase, hmeets, ht'⟩ := ih _ hw.mirrors hw.standing_self
        exact ⟨t', phase, hmeets, ((hu.trans hv).trans hw).trans ht'⟩
      · exact ⟨v, _, ⟨rfl, rfl, stage, rfl, rfl⟩, hu.trans hv⟩

/-- A request comes. -/
theorem openBoard (hnum : e.Numbered) (hm : Mirrors e s t) (r : Request) :
    ∃ t', Advances e (s.openBoard e.slots).2 s.bench.boards.length r (.ofPlan e.plan) t t' := by
  have hinv := hm.reachable.invariant hnum
  have hlength : s.bench.boards.length = t.calls.length := hm.bench_eq ▸ hinv.length_eq
  have hstep : Traffic.Step e t _ := .begin r
  refine ⟨_, .step .refl hstep, hm.of_leads (.step .refl hstep) ?_ ?_ rfl rfl, ?_, ?_⟩
  · intro kind p hp c hc
    obtain ⟨d, hd, -⟩ := hinv.owned kind p (hinv.mem_accepted_of_running hp)
    obtain ⟨hlt, -⟩ := List.getElem?_eq_some_iff.mp hd
    exact hm.pending kind p hp c ((List.getElem?_append_left hlt).symm.trans hc)
  · rw [hm.bench_eq]
    rfl
  · rw [hlength, Traffic.standing?, List.getElem?_concat_length]
    rfl
  · intro other hne
    rw [hlength] at hne
    show (t.calls ++ [_])[other]?.map _ = t.calls[other]?.map _
    rcases Nat.lt_or_gt_of_ne hne with hlt | hgt
    · rw [List.getElem?_append_left hlt]
    · rw [List.getElem?_eq_none (Nat.le_of_lt hgt), List.getElem?_eq_none]
      rw [List.length_append, List.length_singleton]
      exact hgt

/-- **A decision begins.** -/
theorem start (hnum : e.Numbered) (hm : Mirrors e s t) (r : Request) :
    ∃ t' phase, Meets s.bench.boards.length r phase (e.start r s).1 ∧
      Advances e (e.start r s).2 s.bench.boards.length r phase t t' := by
  obtain ⟨u, hu⟩ := hm.openBoard hnum r
  obtain ⟨t', phase, hmeets, ht'⟩ := hu.mirrors.carryOn hnum e.plan hu.standing_self
  exact ⟨t', phase, hmeets, hu.trans ht'⟩

/-- **A decision that waits is resumed.** -/
theorem resume {p : Suspended} (hnum : e.Numbered) (hm : Mirrors e s t)
    (hstanding : t.standing? p.request = some (p.attributes, phase))
    (hmeets : Meets p.request p.attributes phase (.waits p)) :
    ∃ t' phase', Meets p.request p.attributes phase' (e.resume p s).1 ∧
      Advances e (e.resume p s).2 p.request p.attributes phase' t t' := by
  obtain ⟨-, -, stage, hname, rfl⟩ := hmeets
  obtain ⟨u, hu⟩ := hm.advanceWaiter hnum p.waiter hstanding
  rw [Engine.resume]
  cases hresult : (s.advanceWaiter p.request p.waiter).waited? p.request p.waiter with
  | none => exact ⟨u, _, ⟨rfl, rfl, stage, hname, rfl⟩, hu⟩
  | some result =>
    obtain ⟨v, hv⟩ := hu.mirrors.proceed hnum hu.standing_self hresult
    rw [Engine.afterWait, ← hname] at hv
    dsimp only
    set b := (s.advanceWaiter p.request p.waiter).bench
    cases htotal : Engine.stageTotal b p.request p.stage result with
    | ok total =>
      rw [htotal] at hv
      obtain ⟨t', phase, hmeets, ht'⟩ := hv.mirrors.carryOn hnum _ hv.standing_self
      exact ⟨t', phase, hmeets, (hu.trans hv).trans ht'⟩
    | error f =>
      rw [htotal] at hv
      exact ⟨v, _, rfl, hu.trans hv⟩

/-! ### Decisions in one go -/

/-- Someone who has parked goes on after the workers have taken their turns. -/
theorem turn {due : Nat} {limit : Span} (hnum : e.Numbered) (hm : Mirrors e s t) (net : Network)
    (hstanding : t.standing? request = some (r, phase))
    (hparked : (s.bench.board request).Parked waiter due limit) :
    ∃ t', Advances e ((s.settle net).advanceWaiter request waiter) request r phase t t' ∧
      (((s.settle net).advanceWaiter request waiter).bench.board request).Rests
        s.clock waiter due limit := by
  obtain ⟨u, hl, hu, hstands⟩ := hm.settle hnum net
  obtain ⟨t', ht'⟩ := hu.advanceWaiter hnum waiter ((hstands request).trans hstanding)
  have hsettled := EngineState.parked_settle net hparked
  refine ⟨t', (Advances.of_standing hl hu hstands hstanding).trans ht', ?_⟩
  rw [EngineState.board_advanceWaiter (Bench.lt_of_parked hsettled)]
  exact Board.rests_advanceWaiter (.inr hsettled)

/-- Time passes until someone who has parked is done. -/
theorem passTime {due : Nat} {limit : Span} (hnum : e.Numbered) (hm : Mirrors e s t) (net : Network)
    (hstanding : t.standing? request = some (r, phase))
    (hparked : (s.bench.board request).Parked waiter due limit) :
    ∃ t', Advances e (s.passTime net request waiter due) request r phase t t' ∧
      ((s.passTime net request waiter due).waited? request waiter).isSome = true := by
  fun_induction EngineState.passTime net request waiter due s generalizing t with
  | @case1 s worked hdone =>
    obtain ⟨u, hu, -⟩ := hm.turn hnum net hstanding hparked
    exact ⟨u, hu, hdone⟩
  | @case2 s worked hdone next hnext ih =>
    obtain ⟨u, hu, hrests⟩ := hm.turn hnum net hstanding hparked
    obtain ⟨hparked', -⟩ := EngineState.parked_of_rests hrests hdone
    obtain ⟨t', ht', hdone'⟩ := ih (hu.mirrors.at_clock _) hu.standing_self hparked'
    exact ⟨t', hu.trans ht', hdone'⟩
  | @case3 s worked hdone next hnext =>
    obtain ⟨u, hu, hrests⟩ := hm.turn hnum net hstanding hparked
    obtain ⟨hparked', -⟩ := EngineState.parked_of_rests hrests hdone
    obtain ⟨t', ht'⟩ := (hu.mirrors.at_clock (max s.clock due)).advanceWaiter hnum waiter
      hu.standing_self
    refine ⟨t', hu.trans ht', ?_⟩
    -- Its time is up, so it cannot have parked again.
    by_contra hwaited
    set late : EngineState := { worked with clock := max s.clock due }
    have hrests' : ((late.advanceWaiter request waiter).bench.board request).Rests
        late.clock waiter due limit := by
      rw [EngineState.board_advanceWaiter (s := late) (Bench.lt_of_parked hparked')]
      exact Board.rests_advanceWaiter (.inr hparked')
    obtain ⟨-, hlt⟩ := EngineState.parked_of_rests hrests' hwaited
    exact Nat.not_lt_of_le (Nat.le_max_right s.clock due) hlt

/-- A call waits for a stage, and goes on when it has waited to the end. -/
theorem wait (hnum : e.Numbered) (hm : Mirrors e s t) (net : Network)
    (hstanding : t.standing? request =
      some (r, .evaluating stage (0 + stage.stage.checks.length) next)) :
    ∃ t', Advances e (s.wait net request e.stageLimit).2 request r
      (Engine.afterWait (s.wait net request e.stageLimit).2.bench request stage next
        (s.wait net request e.stageLimit).1) t t' := by
  obtain ⟨u, hu⟩ := hm.beginWait hnum hstanding
  set waiter := (s.bench.board request).waiters.length
  obtain ⟨s', hwait, v, hv, result, hresult⟩ :
      ∃ s', s.wait net request e.stageLimit = ((s'.waited? request waiter).getD .quiet, s') ∧
        ∃ v, Advances e s' request r (.waiting stage waiter next) u v ∧
          ∃ result, s'.waited? request waiter = some result := by
    by_cases hdone : ((s.beginWait request e.stageLimit).waited? request waiter).isSome = true
    · refine ⟨_, ?_, u, .refl hu.mirrors hu.standing_self, Option.isSome_iff_exists.mp hdone⟩
      exact EngineState.wait_eq net e.stageLimit _ (if_pos hdone).symm
    · have hrests := EngineState.rests_beginWait e.stageLimit (hm.lt_boards hnum hstanding)
      obtain ⟨hparked, -⟩ := EngineState.parked_of_rests hrests hdone
      obtain ⟨v, hv, hdone'⟩ := hu.mirrors.passTime hnum net hu.standing_self hparked
      refine ⟨_, ?_, v, hv, Option.isSome_iff_exists.mp hdone'⟩
      exact EngineState.wait_eq net e.stageLimit _ (if_neg hdone).symm
  obtain ⟨t', ht'⟩ := hv.mirrors.proceed hnum hv.standing_self hresult
  rw [hwait, hresult, Option.getD_some]
  exact ⟨t', (hu.trans hv).trans ht'⟩

/-- Where a call stands when a stage has been evaluated and waited for. -/
def afterStage (next : Float → Plan Check Float (Decision Float)) : Except Fault Float → Phase
  | .ok total => .ofPlan (next total)
  | .error f => .returned (.error f)

/-- A stage is evaluated and waited for. -/
theorem runStage (hnum : e.Numbered) (hm : Mirrors e s t) (net : Network)
    (hstanding : t.standing? request = some (r, .evaluating stage 0 next)) :
    ∃ t', Advances e (e.runStage net request r stage s).2 request r
      (afterStage next (e.runStage net request r stage s).1) t t' := by
  obtain ⟨u, hu⟩ := hm.evaluateAll hnum hstanding List.drop_zero
  rw [Nat.add_zero] at hu
  unfold Engine.runStage
  rcases hchecks : EngineState.evaluateAll request stage.firstSlot r stage.stage.checks s
    with ⟨⟨err⟩ | ⟨⟩, s₁⟩
  · rw [hchecks] at hu
    exact ⟨u, hu⟩
  · rw [hchecks] at hu
    obtain ⟨t', ht'⟩ := hu.mirrors.wait hnum net hu.standing_self
    exact ⟨t', hu.trans ht'⟩

/-- A plan is carried out stage by stage. -/
theorem carryOut (hnum : e.Numbered) (net : Network) (plan : Plan Check Float (Decision Float))
    (hm : Mirrors e s t)
    (hstanding : t.standing? request = some (r, .ofPlan plan)) :
    ∃ t', Advances e (plan.carryOut (e.runStage net request r) s).2 request r
      (.returned (plan.carryOut (e.runStage net request r) s).1) t t' := by
  induction plan generalizing s t with
  | done d => exact ⟨t, .refl hm hstanding⟩
  | evaluate stage next ih =>
    obtain ⟨u, hu⟩ := hm.runStage hnum net hstanding
    rw [Engine.carryOut_evaluate]
    rcases hstage : e.runStage net request r stage s with ⟨⟨f⟩ | ⟨total⟩, s₁⟩
    · rw [hstage] at hu
      exact ⟨u, hu⟩
    · rw [hstage] at hu
      obtain ⟨t', ht'⟩ := ih total hu.mirrors hu.standing_self
      exact ⟨t', hu.trans ht'⟩

/-- **A decision in one go is that of a call in some traffic.** -/
theorem decide (hnum : e.Numbered) (hm : Mirrors e s t) (net : Network) (r : Request) :
    ∃ t', Advances e (e.decide net r s).2 s.bench.boards.length r
    (.returned (e.decide net r s).1) t t' := by
  obtain ⟨u, hu⟩ := hm.openBoard hnum r
  obtain ⟨t', ht'⟩ := hu.mirrors.carryOut hnum net e.plan hu.standing_self
  rw [Engine.plan, Plan.carryOut_run] at ht'
  exact ⟨t', hu.trans ht'⟩

end Mirrors
end MailPolicy
