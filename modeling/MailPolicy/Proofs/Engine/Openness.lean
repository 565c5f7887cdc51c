/-
Engines whose pools are open.

Only the call for its shutdown closes a pool.  An engine that decides hands tasks to its pools and
lets their workers have their turns, and neither closes one; and a pool that is not closed refuses
no task because of a shutdown.

* `Pool.closed_attemptAll` — no actions but the call for a shutdown close a pool;
* `EngineState.IsOpen` — all pools of an engine are open;
* `EngineState.IsOpen.start`, `EngineState.IsOpen.resume`, `EngineState.IsOpen.settle` — deciding and
  working keep them open;
* `EngineState.IsOpen.evaluateAll` — **no check is refused because a pool shuts down**.
-/
import MailPolicy.Proofs.Engine.Runs

namespace MailPolicy

/-! ### One pool -/

section Pool

variable {T σ : Type} {p q : Pool T} {a : PoolAction T}

theorem Pool.closed_attempt (p : Pool T) (ha : a ≠ .close) : (p.attempt a).closed = p.closed := by
  unfold Pool.attempt
  cases hstep : p.step a with
  | none => rfl
  | some q => exact (Pool.happens_of_step hstep).closed_eq ha

theorem Pool.closed_attemptAll {as : List (PoolAction T)} (has : ∀ a ∈ as, a ≠ .close) (p : Pool T) :
    (p.attemptAll as).closed = p.closed := by
  induction as generalizing p with
  | nil => rfl
  | cons a rest ih =>
    obtain ⟨ha, hrest⟩ := List.forall_mem_cons.mp has
    exact (ih hrest (p.attempt a)).trans (p.closed_attempt ha)

/-- A crew does not close its pool by itself. -/
theorem Crew.keeps_closed (h : Handler T σ) (closed : Bool) :
    Crew.Keeps h fun pool _ => pool.closed = closed where
  act p _ a q ha hstep hp := by
    rw [(Pool.happens_of_step hstep).closed_eq (by rintro rfl; cases ha), hp]
  start _ _ _ _ _ _ hp := hp
  finish p env worker task _ hp := by
    rw [p.closed_attempt (by cases (h.finish env task).1 <;> nofun), hp]

theorem Crew.closed_settle (h : Handler T σ) (now : Nat) (c : Crew T) (env : σ) :
    (c.settle h now env).1.pool.closed = c.pool.closed :=
  (Crew.keeps_closed h c.pool.closed).settle now rfl

theorem Crew.closed_of_submit {c c' : Crew T} {task : T} (h : c.submit task = .ok c') :
    c'.pool.closed = c.pool.closed := by
  obtain ⟨q, hq, hpool⟩ := Crew.exists_of_submit h
  rw [hpool, Pool.closed_attemptAll fun a ha => by rw [List.eq_of_mem_replicate ha]; nofun]
  exact (Pool.happens_of_submit hq).closed_eq nofun

theorem Pool.submit_ne_shuttingDown (h : p.closed = false) (task : T) (name : String) :
    p.submit task ≠ .error (.shuttingDown name) := by
  intro hrefused
  rw [Pool.submit, h, if_neg Bool.false_ne_true] at hrefused
  by_cases hfull : p.isSaturated = true
  · rw [if_pos hfull] at hrefused
    cases hrefused
  rw [if_neg hfull] at hrefused
  by_cases hwants : p.wantsWorker = true
  · rw [if_pos hwants] at hrefused
    split at hrefused <;> cases hrefused
  · rw [if_neg hwants] at hrefused
    cases hrefused

end Pool

/-! ### All pools of an engine -/

/-- Whether all pools of an engine are open. -/
def EngineState.IsOpen (s : EngineState) : Prop := ∀ crew ∈ s.crews, crew.2.pool.closed = false

/-- Whether checks were evaluated with open pools: none was refused because its pool shuts down. -/
structure EngineState.Accepts (result : Except CheckError Unit × EngineState) : Prop where
  isOpen : result.2.IsOpen
  accepted : ∀ check pool, result.1 ≠ .error (.rejected check (.shuttingDown pool))

theorem EngineState.Accepts.of_ok {s : EngineState} (h : s.IsOpen) : Accepts (.ok (), s) where
  isOpen := h
  accepted _ _ hrefused := by cases hrefused

namespace EngineState.IsOpen

variable {s s' : EngineState}

theorem of_crews (h : s.IsOpen) (hcrews : s'.crews = s.crews) : s'.IsOpen := by
  rw [IsOpen, hcrews]
  exact h

theorem settleCrews (net : Network) (clock : Nat) {crews : List (CheckKind × Crew Probe)}
    (h : ∀ crew ∈ crews, crew.2.pool.closed = false) (b : Bench) :
    ∀ crew ∈ (EngineState.settleCrews net clock crews b).1, crew.2.pool.closed = false := by
  induction crews generalizing b with
  | nil => exact fun _ hcrew => absurd hcrew List.not_mem_nil
  | cons entry rest ih =>
    obtain ⟨kind, crew⟩ := entry
    obtain ⟨hfirst, hrest⟩ := List.forall_mem_cons.mp h
    unfold EngineState.settleCrews
    exact List.forall_mem_cons.mpr ⟨(Crew.closed_settle _ _ crew b).trans hfirst, ih hrest _⟩

theorem settle (h : s.IsOpen) (net : Network) : (s.settle net).IsOpen :=
  settleCrews net s.clock h s.bench

theorem setCrew (h : s.IsOpen) (kind : CheckKind) {crew : Crew Probe}
    (hcrew : crew.pool.closed = false) : (s.setCrew kind crew).IsOpen := by
  intro entry hentry
  obtain ⟨⟨k, c⟩, hmem, rfl⟩ := List.mem_map.mp hentry
  by_cases hk : k = kind
  · simp only [hk, if_true]
    exact hcrew
  · simp only [hk, if_false]
    exact h (k, c) hmem

theorem of_lookup (h : s.IsOpen) {kind : CheckKind} {crew : Crew Probe}
    (hcrew : s.crews.lookup kind = some crew) : crew.pool.closed = false := by
  obtain ⟨before, behind, heq, -⟩ := List.lookup_eq_some_iff.mp hcrew
  exact h (kind, crew) (heq ▸ List.mem_append_right _ List.mem_cons_self)

theorem dispatch (h : s.IsOpen) (name : Text) (kind : CheckKind) (p : Probe) :
    Accepts (s.dispatch name kind p) := by
  unfold EngineState.dispatch
  cases hcrew : s.crews.lookup kind with
  | none => exact .of_ok h
  | some crew =>
    have hopen := h.of_lookup hcrew
    cases hsubmit : crew.submit p with
    | ok crew' =>
      simp only [hsubmit]
      exact .of_ok (setCrew (h.of_crews rfl) kind ((Crew.closed_of_submit hsubmit).trans hopen))
    | error e =>
      simp only [hsubmit]
      refine ⟨h.of_crews rfl, fun check pool hrefused => ?_⟩
      cases hrefused
      exact Pool.submit_ne_shuttingDown hopen p pool (Crew.submit_eq_error hsubmit)

theorem evaluate (h : s.IsOpen) (request slot : Nat) (c : Check) (r : Request) :
    Accepts (s.evaluate request slot c r) := by
  cases c with
  | keyFile c =>
    obtain ⟨-, -, -, -, hcrews⟩ := s.evaluateKeyFile_eq request slot c r
    exact .of_ok (h.of_crews hcrews)
  | valueList c | pattern c =>
    rw [EngineState.evaluate, record_eq]
    exact .of_ok (h.of_crews rfl)
  | blockList c | senderPolicy c =>
    -- A check in the background is left out or handed to its pool.
    unfold EngineState.evaluate
    dsimp only
    split
    · exact .of_ok h
    · exact h.dispatch _ _ _

/-- **No check is refused because a pool shuts down.** -/
theorem evaluateAll (h : s.IsOpen) (request slot : Nat) (r : Request) (checks : List Check) :
    Accepts (EngineState.evaluateAll request slot r checks s) := by
  induction checks generalizing s slot with
  | nil => exact .of_ok h
  | cons c rest ih =>
    have hfirst := h.evaluate request slot c r
    unfold EngineState.evaluateAll
    cases hevaluated : s.evaluate request slot c r with
    | mk result s' =>
      rw [hevaluated] at hfirst
      cases result with
      | error e => exact hfirst
      | ok _ => exact ih hfirst.isOpen (slot + 1)

theorem carryOn (h : s.IsOpen) (e : Engine) (request : Nat) (r : Request)
    (plan : Plan Check Float (Decision Float)) : (e.carryOn request r plan s).2.IsOpen := by
  -- A stage for which nobody has to wait is followed by the next at once.
  induction plan generalizing s with
  | done d => exact h
  | evaluate stage next ih =>
    have hevaluated := (h.evaluateAll request stage.firstSlot r stage.stage.checks).isOpen
    cases hchecks : EngineState.evaluateAll request stage.firstSlot r stage.stage.checks s with
    | mk result s' =>
      rw [hchecks] at hevaluated
      cases result with
      | error err =>
        rw [Engine.carryOn, hchecks]
        exact hevaluated
      | ok _ =>
        rw [Engine.carryOn_evaluate hchecks]
        split
        · exact ih _ (hevaluated.of_crews rfl)
        · exact hevaluated.of_crews rfl

theorem start (h : s.IsOpen) (e : Engine) (r : Request) : (e.start r s).2.IsOpen := by
  have hopened : (s.openBoard e.slots).2.IsOpen := h.of_crews rfl
  exact hopened.carryOn e _ r e.plan

theorem resume (h : s.IsOpen) (e : Engine) (p : Suspended) : (e.resume p s).2.IsOpen := by
  have hadvanced : (s.advanceWaiter p.request p.waiter).IsOpen := h.of_crews rfl
  unfold Engine.resume
  dsimp only
  split
  · exact hadvanced
  · split
    · exact carryOn hadvanced e _ _ _
    · exact hadvanced

theorem syncFile (h : s.IsOpen) (files : Files) (slot now : Nat) :
    (s.syncFile files slot now).IsOpen := by
  unfold EngineState.syncFile
  split <;> exact h.of_crews rfl

theorem syncFiles (h : s.IsOpen) (files : Files) : (s.syncFiles files).IsOpen :=
  of_crews (List.foldlRecOn (motive := EngineState.IsOpen) s.claims _ h
    fun _ hopen claim _ => hopen.syncFile files claim.1 claim.2) rfl

end EngineState.IsOpen

/-- An engine starts with open pools. -/
theorem Engine.isOpen_of_build {c : Config} {now : Nat} {files : Files} {e : Engine} {s : EngineState}
    (h : Engine.build c now files = .ok (e, s)) : s.IsOpen := by
  unfold Engine.build at h
  split at h
  · cases h
  · cases h
    intro crew hcrew
    obtain ⟨kind, -, rfl⟩ := List.mem_map.mp hcrew
    rfl

end MailPolicy
