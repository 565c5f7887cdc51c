/-
What holds of a call, wherever it stands.

A call evaluates the checks in slot order, so the slots that it has evaluated are always the first
so many.  What each of them came to stands in its score and nothing else does.  A slot that has
not ended has its guard out, either with the call itself or with the probe, and only a call that
fails leaves one behind.

* `Call.Stands` — what holds by the phase;
* `Call.Sound` — what holds in any phase;
* `Call.Sound.answer`, `Call.Sound.lock`, `Call.Sound.proceed` and others — each step of a call
  keeps it;
* `Call.Sound.log`, `Call.Sound.release`, `Call.Sound.attend` — so does what others do beside it.
-/
import MailPolicy.Proofs.Engine.Stages
import MailPolicy.Proofs.Score.Board

namespace MailPolicy

/-- The slot of a guard that a call holds itself. -/
def Phase.held? : Phase → Option Nat
  | submitting stage offset _ => some (stage.firstSlot + offset)
  | refused slot _ => some slot
  | _ => none

theorem BlockList.isBackground_kind (c : BlockList) : c.kind.isBackground = true := by
  rw [BlockList.kind]
  cases c.target <;> rfl

/-- A check that does not answer at once works in the background. -/
theorem Check.isBackground_of_atOnce? {c : Check} {m : Memory} {now : Nat} {r : Request}
    (h : c.atOnce? m now r = none) : c.kind.isBackground = true := by
  cases c with
  | blockList c => exact c.isBackground_kind
  | senderPolicy c => rfl
  | valueList c => cases h
  | pattern c => cases h
  | keyFile c =>
    simp only [atOnce?] at h
    split at h <;> cases h

/-- Waiting and signals leave the slots and the guards as they are. -/
theorem Board.of_isWaiting {α : Type} {b b' : Board α} {a : BoardAction α} (ha : a.isWaiting = true)
    (hstep : b.step a = some b') : b'.score = b.score ∧ b'.guards = b.guards := by
  obtain ⟨-, hscore, hguards, -⟩ := of_step hstep
  rw [hscore, hguards]
  cases a with
  | signal | read _ | wake _ | expire _ _ | report _ => exact ⟨rfl, rfl⟩
  | _ => cases ha

namespace Call

variable {e : Engine} {b b' : Board Float} {c c' : Call} {n : Nat} {stage : PlacedStage Check Float}
  {offset slot : Nat}
  {next : Float → Plan Check Float (Decision Float)} {points : Option Float}

/-! ### What has ended -/

theorem ended_log_self : (c.log slot points).ended slot = some points := if_pos rfl

theorem ended_log_of_ne {i : Nat} (h : i ≠ slot) : (c.log slot points).ended i = c.ended i :=
  if_neg h

/-- What has ended is not logged again. -/
theorem ended_log_of_isSome {i : Nat} (hnone : c.ended slot = none)
    (hi : (c.ended i).isSome = true) :
    (c.log slot points).ended i = c.ended i := by
  apply ended_log_of_ne
  rintro rfl
  rw [hnone] at hi
  cases hi

theorem points_log : (c.log slot points).points = fun i =>
    if i = slot then points else c.points i := by
  funext i
  by_cases hi : i = slot
  · rw [if_pos hi, hi, Call.points, ended_log_self, Option.join_some]
  · rw [if_neg hi, Call.points, ended_log_of_ne hi, ← Call.points]

theorem points_eq_none (h : c.ended slot = none) : c.points slot = none := by
  rw [Call.points, h, Option.join_none]

/-- The score with what a check came to is that of the call with what is logged. -/
theorem record_filled_points {size : Nat} (h : c.ended slot = none) :
    (Score.filled c.points size size).record (fun _ => points) slot =
      .filled (c.log slot points).points size size := by
  rw [points_log, Score.record]
  cases points with
  | some x => exact Score.update_filled slot x
  | none =>
    show Score.filled c.points size size = _
    congr 1
    funext i
    by_cases hi : i = slot
    · rw [if_pos hi, hi, points_eq_none h]
    · rw [if_neg hi]

/-! ### Where a call stands -/

/-- Whether a call has come to the stage after the first `n`, and all of these have ended. -/
structure At (e : Engine) (c : Call) (n : Nat) (stage : PlacedStage Check Float)
    (next : Float → Plan Check Float (Decision Float)) : Prop where
  stage_eq : e.stages[n]? = some stage
  next_eq : next = e.after n stage
  reached : e.Reached c.points n
  ended : ∀ i < e.stopAfter n, (c.ended i).isSome = true

/-- What holds of a call and its score where it stands. -/
def Stands (e : Engine) (b : Board Float) (c : Call) : Phase → Prop
  | .evaluating stage offset next =>
    ∃ n, c.At e n stage next ∧ offset ≤ stage.stage.checks.length ∧
      c.evaluated = List.range (stage.firstSlot + offset)
  | .submitting stage offset next =>
    ∃ n, c.At e n stage next ∧ offset < stage.stage.checks.length ∧
      c.evaluated = List.range (stage.firstSlot + offset + 1) ∧
      (∀ check, stage.stage.checks[offset]? = some check → check.kind.isBackground = true) ∧
      stage.firstSlot + offset ∈ b.guards ∧ c.ended (stage.firstSlot + offset) = none
  | .refused slot error => slot ∈ b.guards ∧ c.ended slot = none ∧ error.fault.kind = .exhausted
  | .waiting stage waiter next =>
    ∃ n, c.At e n stage next ∧ c.evaluated = List.range (e.stopAfter (n + 1)) ∧
      waiter < b.waiters.length ∧
      (b.waiters[waiter]? = some (.done .quiet) → b.guards = [])
  | .returned (.ok d) =>
    e.Decides c.points d ∧ d.stagesRun ≤ e.stages.length ∧
      c.evaluated = List.range (e.stopAfter d.stagesRun) ∧
      d.total = Score.totalBelow c.points (e.stopAfter d.stagesRun) ∧ b.guards = []
  | .returned (.error f) => f.kind = .exhausted ∨ f.kind = .timeout

/-- What holds of a call and its score wherever it stands. -/
structure Sound (e : Engine) (b : Board Float) (c : Call) : Prop where
  consistent : b.Consistent
  score_eq : b.score = .filled c.points e.slots e.slots
  lt_slots : ∀ i ∈ c.evaluated, i < e.slots
  mem_of_ended : ∀ i, (c.ended i).isSome = true → i ∈ c.evaluated
  mem_of_guard : ∀ i ∈ b.guards, i ∈ c.evaluated
  comesTo : ∀ i points, c.ended i = some points →
    ∃ check, e.checks[i]? = some check ∧ check.ComesTo i c.attributes points
  ended_or_guard : (∀ f, c.phase ≠ .returned (.error f)) →
    ∀ i ∈ c.evaluated, (c.ended i).isSome = true ∨ i ∈ b.guards
  stands : c.Stands e b c.phase

theorem Sound.stands_of {phase : Phase} (h : c.Sound e b) (hphase : c.phase = phase) :
    c.Stands e b phase :=
  hphase ▸ h.stands

theorem At.congr (h : c.At e n stage next)
    (hkeep : ∀ i, (c.ended i).isSome = true → c'.ended i = c.ended i) :
    c'.At e n stage next where
  stage_eq := h.stage_eq
  next_eq := h.next_eq
  reached := h.reached.congr fun i hi => by rw [Call.points, hkeep i (h.ended i hi), ← Call.points]
  ended := fun i hi => by rw [hkeep i (h.ended i hi)]; exact h.ended i hi

/-- What others do to a call that stands where it stood: what has ended stays, no guard comes, and
a guard that the call holds itself stays with it. -/
theorem Stands.congr {phase : Phase} (h : c.Stands e b phase)
    (hevaluated : c'.evaluated = c.evaluated)
    (hkeep : ∀ i, (c.ended i).isSome = true → c'.ended i = c.ended i)
    (hguards : b'.guards ⊆ b.guards)
    (hheld : ∀ i, phase.held? = some i → (i ∈ b.guards → i ∈ b'.guards) ∧ c'.ended i = c.ended i)
    (hquiet : b.guards = [] → c'.ended = c.ended)
    (hlength : b.waiters.length ≤ b'.waiters.length)
    (hwaiters : ∀ i, b'.waiters[i]? = some (.done .quiet) → i < b.waiters.length →
      b.waiters[i]? = some (.done .quiet) ∨ b.guards = []) : c'.Stands e b' phase := by
  cases phase with
  | evaluating stage offset next =>
    obtain ⟨n, hat, hoffset, hrange⟩ := h
    exact ⟨n, hat.congr hkeep, hoffset, hevaluated.trans hrange⟩
  | submitting stage offset next =>
    obtain ⟨n, hat, hoffset, hrange, hback, hmem, hnone⟩ := h
    obtain ⟨hguard, hended⟩ := hheld _ rfl
    exact ⟨n, hat.congr hkeep, hoffset, hevaluated.trans hrange, hback, hguard hmem,
      hended.trans hnone⟩
  | refused slot error =>
    obtain ⟨hmem, hnone, hkind⟩ := h
    obtain ⟨hguard, hended⟩ := hheld _ rfl
    exact ⟨hguard hmem, hended.trans hnone, hkind⟩
  | waiting stage waiter next =>
    obtain ⟨n, hat, hrange, hwaiter, hdone⟩ := h
    refine ⟨n, hat.congr hkeep, hevaluated.trans hrange, Nat.lt_of_lt_of_le hwaiter hlength,
      fun hd => ?_⟩
    have hnil : b.guards = [] := (hwaiters waiter hd hwaiter).elim hdone id
    exact List.subset_nil.mp (hnil ▸ hguards)
  | returned outcome =>
    cases outcome with
    | ok d =>
      obtain ⟨hdecides, hle, hrange, htotal, hnil⟩ := h
      -- Nothing is out any more, so nothing ends any more.
      have hpoints : c'.points = c.points := by
        funext i
        rw [Call.points, hquiet hnil, ← Call.points]
      refine ⟨hpoints ▸ hdecides, hle, hevaluated.trans hrange, hpoints ▸ htotal, ?_⟩
      exact List.subset_nil.mp (hnil ▸ hguards)
    | error f => exact h

/-! ### What others do -/

theorem Sound.ended_eq_none (h : c.Sound e b) (hout : slot ∉ c.evaluated) :
    c.ended slot = none := by
  rw [← Option.not_isSome_iff_eq_none]
  exact fun hsome => hout (h.mem_of_ended slot hsome)

/-- A probe logs what it found. -/
theorem Sound.log {check : Check} (h : c.Sound e b) (hguard : slot ∈ b.guards)
    (hnone : c.ended slot = none)
    (hheld : c.phase.held? ≠ some slot) (hcheck : e.checks[slot]? = some check)
    (hcomes : check.ComesTo slot c.attributes points) :
    (c.log slot points).Sound e { b with score := b.score.record (fun _ => points) slot } where
  consistent := ⟨h.consistent.writers_eq, h.consistent.nodup⟩
  score_eq := by
    rw [← record_filled_points hnone, ← h.score_eq]
  lt_slots := h.lt_slots
  mem_of_ended := by
    -- The slot itself has a guard out, so the call has evaluated it.
    intro i hi
    by_cases heq : i = slot
    · rw [heq]
      exact h.mem_of_guard slot hguard
    · rw [ended_log_of_ne heq] at hi
      exact h.mem_of_ended i hi
  mem_of_guard := h.mem_of_guard
  comesTo := by
    intro i x hx
    by_cases heq : i = slot
    · rw [heq, ended_log_self] at hx
      obtain rfl := Option.some.inj hx
      exact ⟨check, heq ▸ hcheck, heq ▸ hcomes⟩
    · rw [ended_log_of_ne heq] at hx
      exact h.comesTo i x hx
  ended_or_guard := by
    intro hopen i hi
    by_cases heq : i = slot
    · exact .inr (heq ▸ hguard)
    · rw [ended_log_of_ne heq]
      exact h.ended_or_guard hopen i hi
  stands := by
    refine h.stands.congr rfl (fun i hi => ended_log_of_isSome hnone hi) (List.Subset.refl _) ?_ ?_
      (Nat.le_refl _) fun i hi _ => .inl hi
    · intro i hi
      refine ⟨id, ended_log_of_ne ?_⟩
      rintro rfl
      exact hheld hi
    · intro hnil
      rw [hnil] at hguard
      cases hguard

/-- The guard of a probe that has ended is given back. -/
theorem Sound.release (h : c.Sound e b) (hended : (c.ended slot).isSome = true)
    (hstep : b.step (.release slot) = some b') : c.Sound e b' := by
  obtain ⟨-, hscore, hguards, -⟩ := Board.of_step hstep
  have hsubset : b'.guards ⊆ b.guards := hguards ▸ List.erase_subset
  -- The guard that goes is that of a slot that has ended.
  have hkept {i : Nat} (hi : c.ended i = none) (hmem : i ∈ b.guards) : i ∈ b'.guards := by
    refine h.consistent.mem_of_release hstep ?_ hmem
    rintro rfl
    rw [hi] at hended
    cases hended
  have hwaiters : b'.waiters = b.waiters := by
    obtain ⟨-, hb⟩ := Option.ite_none_right_eq_some.mp hstep
    cases hb
    rfl
  refine ⟨h.consistent.step hstep, hscore.trans h.score_eq, h.lt_slots, h.mem_of_ended,
    fun i hi => h.mem_of_guard i (hsubset hi), h.comesTo, ?_, ?_⟩
  · intro hopen i hi
    cases hsome : c.ended i with
    | some x => exact .inl rfl
    | none =>
      rcases h.ended_or_guard hopen i hi with hs | hmem
      · rw [hsome] at hs
        cases hs
      · exact .inr (hkept hsome hmem)
  · refine h.stands.congr rfl (fun _ _ => rfl) hsubset ?_ (fun _ => rfl)
      (hwaiters ▸ Nat.le_refl _) ?_
    · intro i hi
      refine ⟨hkept ?_, rfl⟩
      cases hphase : c.phase with
      | submitting stage offset next =>
        rw [hphase] at hi
        obtain ⟨n, -, -, -, -, -, hnone⟩ := h.stands_of hphase
        exact Option.some.inj hi ▸ hnone
      | refused slot error =>
        rw [hphase] at hi
        obtain ⟨-, hnone, -⟩ := h.stands_of hphase
        exact Option.some.inj hi ▸ hnone
      | evaluating | waiting | returned =>
        rw [hphase] at hi
        cases hi
    · intro i hi _
      rw [hwaiters] at hi
      exact .inl hi

/-- Someone who waits goes on, or a signal is given. -/
theorem Sound.attend {a : BoardAction Float} (h : c.Sound e b) (ha : a.isWaiting = true)
    (hstep : b.step a = some b') : c.Sound e b' := by
  obtain ⟨hscore, hguards⟩ := Board.of_isWaiting ha hstep
  refine ⟨h.consistent.step hstep, hscore.trans h.score_eq, h.lt_slots, h.mem_of_ended,
    hguards ▸ h.mem_of_guard,
    h.comesTo, hguards ▸ h.ended_or_guard, ?_⟩
  have hgoes (i : Nat) (hi : i < b.waiters.length) := Board.getElem?_waiters_of_step hstep
    (List.getElem?_eq_getElem hi)
  refine h.stands.congr rfl (fun _ _ => rfl) (hguards ▸ List.Subset.refl _)
    (fun i _ => ⟨fun hi => hguards ▸ hi, rfl⟩) (fun _ => rfl) ?_ ?_
  · -- A waiter that was there is still there.
    by_contra hlt
    obtain ⟨w, hw, -⟩ := hgoes b'.waiters.length (Nat.lt_of_not_le hlt)
    rw [List.getElem?_eq_none (Nat.le_refl _)] at hw
    cases hw
  · intro i hdone hi
    obtain ⟨w, hw, hgo⟩ := hgoes i hi
    obtain rfl := Option.some.inj (hw.symm.trans hdone)
    rcases hgo.quiet with hquiet | hzero
    · exact .inl ((List.getElem?_eq_getElem hi).trans (congrArg some hquiet))
    · rw [h.consistent.writers_eq] at hzero
      exact .inr (List.eq_nil_of_length_eq_zero hzero)

/-! ### What the call does itself -/

/-- A call that goes on to another phase without a change of its score other than in those who
wait. -/
theorem Sound.move (h : c.Sound e b) (hopen : ∀ f, c.phase ≠ .returned (.error f)) (phase : Phase)
    (hscore : b'.score = b.score) (hguards : b'.guards = b.guards)
    (hwriters : b'.writers = b.writers)
    (hstands : c.Stands e b' phase) : { c with phase := phase }.Sound e b' where
  consistent := ⟨by rw [hwriters, hguards, h.consistent.writers_eq], hguards ▸ h.consistent.nodup⟩
  score_eq := hscore.trans h.score_eq
  lt_slots := h.lt_slots
  mem_of_ended := h.mem_of_ended
  mem_of_guard := hguards ▸ h.mem_of_guard
  comesTo := h.comesTo
  ended_or_guard := fun _ => hguards ▸ h.ended_or_guard hopen
  stands := hstands.congr rfl (fun _ _ => rfl) (List.Subset.refl _) (fun _ _ => ⟨id, rfl⟩)
    (fun _ => rfl)
    (Nat.le_refl _) fun _ hdone _ => .inl hdone

/-- A call that evaluates a check has evaluated exactly those before it. -/
theorem Sound.comes {check : Check} (hnum : e.Numbered) (h : c.Sound e b)
    (hphase : c.phase = .evaluating stage offset next)
    (hcheck : stage.stage.checks[offset]? = some check) :
    ∃ n, c.At e n stage next ∧ offset < stage.stage.checks.length ∧
      c.evaluated = List.range (stage.firstSlot + offset) ∧ stage.firstSlot + offset < e.slots ∧
      e.checks[stage.firstSlot + offset]? = some check := by
  obtain ⟨n, hat, -, hrange⟩ := h.stands_of hphase
  obtain ⟨hlt, -⟩ := List.getElem?_eq_some_iff.mp hcheck
  refine ⟨n, hat, hlt, hrange, ?_, (Engine.checks_getElem? hnum hat.stage_eq hlt).trans hcheck⟩
  have hstop := Engine.stop_eq hnum hat.stage_eq
  have hfit := e.stopAfter_le_slots (n + 1)
  rw [PlacedStage.stop] at hstop
  omega

/-- The slot of the check that a call evaluates next is not one that it has evaluated. -/
theorem Sound.ne_of_mem {check : Check} {i : Nat} (hnum : e.Numbered) (h : c.Sound e b)
    (hphase : c.phase = .evaluating stage offset next)
    (hcheck : stage.stage.checks[offset]? = some check) (hi : i ∈ c.evaluated) :
    i ≠ stage.firstSlot + offset := by
  obtain ⟨n, -, -, hrange, -, -⟩ := h.comes hnum hphase hcheck
  rw [hrange, List.mem_range] at hi
  exact Nat.ne_of_lt hi

/-- The call evaluates a check that answers at once. -/
theorem Sound.answer {check : Check} {m : Memory} {now : Nat} (hnum : e.Numbered) (h : c.Sound e b)
    (hphase : c.phase = .evaluating stage offset next)
    (hcheck : stage.stage.checks[offset]? = some check)
    (hpoints : check.atOnce? m now c.attributes = some points)
    (hslot : slot = stage.firstSlot + offset) :
    ((c.evaluate slot (.evaluating stage (offset + 1) next)).log slot points).Sound e
      { b with score := b.score.record (fun _ => points) slot } := by
  obtain ⟨n, hat, hoffset, hrange, hlt, hget⟩ := h.comes hnum hphase hcheck
  rw [← hslot] at hrange hlt hget
  have hout : slot ∉ c.evaluated := fun hmem => h.ne_of_mem hnum hphase hcheck hmem hslot
  have hnone := h.ended_eq_none hout
  constructor
  · exact ⟨h.consistent.writers_eq, h.consistent.nodup⟩
  · show b.score.record (fun _ => points) slot = .filled (c.log slot points).points e.slots e.slots
    rw [h.score_eq, record_filled_points hnone]
  · intro i hi
    rcases List.mem_append.mp hi with hold | hnew
    · exact h.lt_slots i hold
    · rwa [List.mem_singleton.mp hnew]
  · intro i hi
    by_cases heq : i = slot
    · rw [heq]
      exact List.mem_concat_self
    · rw [ended_log_of_ne heq] at hi
      exact List.mem_append_left _ (h.mem_of_ended i hi)
  · intro i hi
    exact List.mem_append_left _ (h.mem_of_guard i hi)
  · intro i x hx
    by_cases heq : i = slot
    · rw [heq, ended_log_self] at hx
      obtain rfl := Option.some.inj hx
      exact ⟨check, heq ▸ hget, .atOnce m now hpoints⟩
    · rw [ended_log_of_ne heq] at hx
      exact h.comesTo i x hx
  · intro _ i hi
    by_cases heq : i = slot
    · left
      rw [heq, ended_log_self]
      rfl
    · rw [ended_log_of_ne heq]
      refine h.ended_or_guard (fun f hf => by rw [hphase] at hf; cases hf) i ?_
      exact (List.mem_append.mp hi).resolve_right fun hnew => heq (List.mem_singleton.mp hnew)
  · refine ⟨n, hat.congr fun i hi => ended_log_of_isSome hnone hi, hoffset, ?_⟩
    show c.evaluated ++ [slot] = _
    rw [hrange, hslot, ← Nat.add_assoc, List.range_succ]

/-- The call takes a guard for the probe of a check. -/
theorem Sound.lock {check : Check} {m : Memory} {now : Nat} (hnum : e.Numbered) (h : c.Sound e b)
    (hphase : c.phase = .evaluating stage offset next)
    (hcheck : stage.stage.checks[offset]? = some check)
    (hpoints : check.atOnce? m now c.attributes = none) (hslot : slot = stage.firstSlot + offset)
    (hstep : b.step (.lock slot) = some b') :
    (c.evaluate slot (.submitting stage offset next)).Sound e b' := by
  obtain ⟨n, hat, hoffset, hrange, hlt, hget⟩ := h.comes hnum hphase hcheck
  rw [← hslot] at hrange hlt hget
  have hout : slot ∉ c.evaluated := fun hmem => h.ne_of_mem hnum hphase hcheck hmem hslot
  obtain ⟨-, hscore, hguards, -⟩ := Board.of_step hstep
  have hself : slot ∈ b'.guards := by
    rw [hguards]
    exact List.mem_concat_self
  constructor
  · exact h.consistent.step hstep
  · exact hscore.trans h.score_eq
  · intro i hi
    rcases List.mem_append.mp hi with hold | hnew
    · exact h.lt_slots i hold
    · rwa [List.mem_singleton.mp hnew]
  · intro i hi
    exact List.mem_append_left _ (h.mem_of_ended i hi)
  · intro i hi
    rw [hguards] at hi
    rcases List.mem_append.mp hi with hold | hnew
    · exact List.mem_append_left _ (h.mem_of_guard i hold)
    · rw [List.mem_singleton.mp hnew]
      exact List.mem_concat_self
  · exact h.comesTo
  · intro _ i hi
    rcases List.mem_append.mp hi with hold | hnew
    · rcases h.ended_or_guard (fun f hf => by rw [hphase] at hf; cases hf) i hold with hended | hmem
      · exact .inl hended
      · right
        rw [hguards]
        exact List.mem_append_left _ hmem
    · rw [List.mem_singleton.mp hnew]
      exact .inr hself
  · refine ⟨n, hat.congr fun _ _ => rfl, hoffset, ?_, ?_, hslot ▸ hself,
      hslot ▸ h.ended_eq_none hout⟩
    · show c.evaluated ++ [slot] = _
      rw [hrange, hslot, List.range_succ]
    · intro other hother
      obtain rfl := Option.some.inj (hcheck.symm.trans hother)
      exact Check.isBackground_of_atOnce? hpoints

/-- The probe of a check is queued, and the call goes on to the next. -/
theorem Sound.queue (h : c.Sound e b) (hphase : c.phase = .submitting stage offset next) :
    { c with phase := .evaluating stage (offset + 1) next }.Sound e b := by
  refine h.move (fun f hf => by rw [hphase] at hf; cases hf) _ rfl rfl rfl ?_
  obtain ⟨n, hat, hoffset, hrange, -, -, -⟩ := h.stands_of hphase
  exact ⟨n, hat, hoffset, hrange⟩

/-- The probe of a check is refused. -/
theorem Sound.refuse (h : c.Sound e b) (hphase : c.phase = .submitting stage offset next)
    (name : Text)
    (reason : PoolError) :
    { c with phase := .refused (stage.firstSlot + offset) (.rejected name reason) }.Sound e b := by
  refine h.move (fun f hf => by rw [hphase] at hf; cases hf) _ rfl rfl rfl ?_
  obtain ⟨n, -, -, -, -, hguard, hnone⟩ := h.stands_of hphase
  exact ⟨hguard, hnone, rfl⟩

/-- The guard of a probe that was refused is given back. -/
theorem Sound.giveBack {error : CheckError} (h : c.Sound e b)
    (hphase : c.phase = .refused slot error)
    (hstep : b.step (.release slot) = some b') :
    { c with phase := .returned (.error error.fault) }.Sound e b' := by
  obtain ⟨-, hscore, hguards, -⟩ := Board.of_step hstep
  have hsubset : b'.guards ⊆ b.guards := hguards ▸ List.erase_subset
  obtain ⟨-, -, hkind⟩ := h.stands_of hphase
  exact ⟨h.consistent.step hstep, hscore.trans h.score_eq, h.lt_slots, h.mem_of_ended,
    fun i hi => h.mem_of_guard i (hsubset hi), h.comesTo, fun hopen =>
      absurd rfl (hopen error.fault), .inl hkind⟩

/-- The call has evaluated the last check of a stage and starts to wait. -/
theorem Sound.enter {limit : Span} {due : Nat} (hnum : e.Numbered) (h : c.Sound e b)
    (hphase : c.phase = .evaluating stage offset next) (hend : stage.stage.checks[offset]? = none)
    (hstep : b.step (.enter limit due) = some b') :
    { c with phase := .waiting stage b.waiters.length next }.Sound e b' := by
  cases hstep
  refine h.move (fun f hf => by rw [hphase] at hf; cases hf) _ rfl rfl rfl ?_
  obtain ⟨n, hat, hoffset, hrange⟩ := h.stands_of hphase
  have hlast : offset = stage.stage.checks.length :=
    Nat.le_antisymm hoffset (List.getElem?_eq_none_iff.mp hend)
  refine ⟨n, hat, ?_, ?_, fun hdone => ?_⟩
  · rw [hrange, hlast, ← PlacedStage.stop, Engine.stop_eq hnum hat.stage_eq]
  · rw [List.length_append, List.length_singleton]
    exact Nat.lt_succ_self _
  · -- The new waiter has not read the counter yet.
    rw [List.getElem?_concat_length] at hdone
    cases hdone

/-- A call that has come to the end of the first `n` stages stands at the next, or is over. -/
theorem stands_planFrom (hnum : e.Numbered) (hle : n ≤ e.stages.length)
    (hreached : e.Reached c.points n)
    (hended : ∀ i < e.stopAfter n, (c.ended i).isSome = true)
    (hrange : c.evaluated = List.range (e.stopAfter n))
    (hguards : b.guards = []) :
    c.Stands e b (.ofPlan (e.planFrom n (Score.totalBelow c.points (e.stopAfter n)))) := by
  cases hstage : e.stages[n]? with
  | none =>
    rw [Engine.planFrom_of_getElem?_eq_none hstage]
    exact ⟨hreached.decides_of_none hstage, hle, hrange, rfl, hguards⟩
  | some stage =>
    rw [Engine.planFrom_of_getElem? hstage]
    refine ⟨n, ⟨hstage, rfl, hreached, hended⟩, Nat.zero_le _, ?_⟩
    rw [hnum n stage hstage]
    exact hrange

/-- A call that begins. -/
theorem sound_begin (hnum : e.Numbered) (r : Request) :
    Sound e (.blank e.slots) { attributes := r, phase := .ofPlan e.plan } where
  consistent := Board.consistent_blank e.slots
  score_eq := by
    have hneutral : Score.filled (fun _ => none) e.slots e.slots = (.blank e.slots : Score Float) :=
      (Score.filled_of_neutral fun _ _ => rfl).trans Score.filled_zero
    exact hneutral.symm
  lt_slots := fun i hi => absurd hi List.not_mem_nil
  mem_of_ended := fun i hi => by cases hi
  mem_of_guard := fun i hi => absurd hi List.not_mem_nil
  comesTo := fun i x hx => by cases hx
  ended_or_guard := fun _ i hi => absurd hi List.not_mem_nil
  stands := stands_planFrom (c := { attributes := r, phase := .ofPlan e.plan }) hnum (Nat.zero_le _)
    (e.reached_zero _) (fun i hi => absurd hi (Nat.not_lt_zero i)) rfl rfl

/-- The call has waited to the end. -/
theorem Sound.proceed {bench : Bench} {request waiter : Nat} {result : WaitResult}
    (hnum : e.Numbered)
    (h : c.Sound e (bench.board request)) (hphase : c.phase = .waiting stage waiter next)
    (hdone : (bench.board request).waiters[waiter]? = some (.done result)) :
    { c with phase := Engine.afterWait bench request stage next result }.Sound e
    (bench.board request) := by
  have hopen : ∀ f, c.phase ≠ .returned (.error f) := fun f hf => by rw [hphase] at hf; cases hf
  refine h.move hopen _ rfl rfl rfl ?_
  obtain ⟨n, hat, hrange, -, hguards⟩ := h.stands_of hphase
  cases result with
  | timeout writers limit => exact .inr rfl
  | quiet =>
    have hnil := hguards hdone
    have hended : ∀ i < e.stopAfter (n + 1), (c.ended i).isSome = true := by
      intro i hi
      refine (h.ended_or_guard hopen i (hrange ▸ List.mem_range.mpr hi)).resolve_right ?_
      rw [hnil]
      exact List.not_mem_nil
    -- The later slots are neutral, so the total is that of the stages so far.
    have htotal : (bench.board request).score.total = Score.totalBelow c.points
        (e.stopAfter (n + 1)) := by
      rw [h.score_eq, Score.filled_of_neutral, Score.total_filled (e.stopAfter_le_slots (n + 1))]
      intro i hi
      apply points_eq_none
      apply h.ended_eq_none
      rw [hrange, List.mem_range]
      exact Nat.not_lt_of_le hi
    obtain ⟨hlt, -⟩ := List.getElem?_eq_some_iff.mp hat.stage_eq
    have hphase' : Engine.afterWait bench request stage next .quiet =
        .ofPlan (e.after n stage (Score.totalBelow c.points (e.stopAfter (n + 1)))) := by
      rw [← htotal, ← hat.next_eq]
      rfl
    rw [hphase']
    cases hfixed : e.fixed? stage (Score.totalBelow c.points (e.stopAfter (n + 1))) with
    | none =>
      rw [Engine.after_of_none hfixed]
      exact stands_planFrom hnum hlt (hat.reached.succ hnum hat.stage_eq hfixed) hended hrange hnil
    | some verdict =>
      rw [Engine.after_of_fixed hfixed]
      exact ⟨hat.reached.decides_of_fixed hnum hat.stage_eq hfixed, hlt, hrange, rfl, hnil⟩

end Call
end MailPolicy
