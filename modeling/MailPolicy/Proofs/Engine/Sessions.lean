/-
What an engine goes through from its first state on.

A session of an engine is made of the beginnings and resumptions of decisions, of decisions in one
go, of the turns of workers, of shutdowns of pools, and of whatever happens outside.  All of it
can come about in the traffic, so what holds of every traffic holds of the engine that runs.

* `Engine.Session` — what an engine can come to, and the decisions that wait there;
* `Engine.Session.follows` — some traffic is in the same state, and its calls wait as the
  decisions do;
* `Engine.Session.complete` — **every decision of an engine that was built is complete**.
-/
import MailPolicy.Proofs.Engine.Building
import MailPolicy.Proofs.Engine.Completeness

namespace MailPolicy

/-- The decision that is left waiting. -/
def Progress.left : Progress → List Suspended
  | .over _ => []
  | .waits p => [p]

/-- What an engine can come to from its first state, and the decisions that wait there. -/
inductive Engine.Session (e : Engine) (first : EngineState) : EngineState → List Suspended →
    Prop where
  | first : Session e first first []
  /-- A decision begins. -/
  | start {s : EngineState} {waiting : List Suspended} (r : Request) : Session e first s waiting →
      Session e first (e.start r s).2 (waiting ++ (e.start r s).1.left)
  /-- A decision that waits is resumed. -/
  | resume {s : EngineState} {waiting : List Suspended} (p : Suspended) :
      Session e first s waiting → p ∈ waiting →
      Session e first (e.resume p s).2
        (waiting.filter (·.request != p.request) ++ (e.resume p s).1.left)
  /-- A decision in one go. -/
  | decide {s : EngineState} {waiting : List Suspended} (net : Network) (r : Request) :
      Session e first s waiting →
      Session e first (e.decide net r s).2 waiting
  /-- The workers take their turns. -/
  | settle {s : EngineState} {waiting : List Suspended} (net : Network) :
      Session e first s waiting →
      Session e first (s.settle net) waiting
  /-- Someone calls for the shutdown of a pool. -/
  | closePool {s : EngineState} {waiting : List Suspended} (kind : CheckKind) :
      Session e first s waiting →
      Session e first (s.closePool kind) waiting
  /-- Time passes, and what checks remember changes in any way. -/
  | outside {s s' : EngineState} {waiting : List Suspended} (memories : List Memory) (now : Nat)
      (queries : List Text) (subjects : List Subject) :
      Session e first s waiting → s'.crews = s.crews →
      s'.bench = { s.bench with
        memories := memories, now := now, queries := queries, subjects := subjects } →
      Session e first s' waiting

namespace Mirrors

variable {e : Engine} {s s' : EngineState} {t t' : Traffic} {request : Nat} {r : Request}
  {phase : Phase}

theorem outside {memories : List Memory} {now : Nat} {queries : List Text} {subjects : List Subject}
    (hm : Mirrors e s t) (hcrews : s'.crews = s.crews)
    (hbench : s'.bench = { s.bench with
      memories := memories, now := now, queries := queries, subjects := subjects }) :
    ∃ t', Mirrors e s' t' ∧ ∀ request, t'.standing? request = t.standing? request := by
  have hstep : Traffic.Step e t _ := .outside memories now queries subjects
  refine ⟨_, hm.of_leads (.step .refl hstep) hm.pending ?_ rfl hcrews, fun _ => rfl⟩
  rw [hbench, ← hm.bench_eq]

theorem closePool (hnum : e.Numbered) (hm : Mirrors e s t) (kind : CheckKind) :
    ∃ t', Mirrors e (s.closePool kind) t' ∧
      ∀ request, t'.standing? request = t.standing? request := by
  unfold EngineState.closePool
  cases hcrew : s.crews.lookup kind with
  | none => exact ⟨t, hm, fun _ => rfl⟩
  | some crew =>
    dsimp only
    by_cases hdrained : crew.isDrained = true
    · rw [if_pos hdrained]
      have hfree : ∀ a ∈ ([.close] : List (PoolAction Probe)), a.isFree = true := by
        simp [PoolAction.isFree]
      obtain ⟨t', hworks, hbench, hpool⟩ :=
        (hm.reachable.invariant hnum).works_attemptAll hnum hm.pending kind hfree
      refine ⟨t', hm.setCrew hworks.leads hworks.pending
        (hbench.trans hm.bench_eq) ?_ hworks.pools_eq rfl,
        hworks.standing_eq⟩
      rw [hpool, hm.pool_of_lookup hcrew]
      rfl
    · rw [if_neg hdrained]
      exact ⟨t, hm, fun _ => rfl⟩

/-- Whether the calls of some traffic wait as decisions of an engine do. -/
structure Follows (e : Engine) (s : EngineState) (waiting : List Suspended) (t : Traffic) :
    Prop where
  mirrors : Mirrors e s t
  nodup : (waiting.map Suspended.request).Nodup
  meets : ∀ p ∈ waiting, ∃ phase, t.standing? p.request = some (p.attributes, phase) ∧
    Meets p.request p.attributes phase (.waits p)

variable {waiting : List Suspended} {progress : Progress}

theorem Follows.of_standing (h : Follows e s waiting t) (hm : Mirrors e s' t')
    (hstanding : ∀ request, t'.standing? request = t.standing? request) :
    Follows e s' waiting t' := by
  refine ⟨hm, h.nodup, fun p hp => ?_⟩
  rw [hstanding]
  exact h.meets p hp

/-- A decision goes on that does not wait any more. -/
theorem Follows.advance (h : Follows e s waiting t) (ha : Advances e s' request r phase t t')
    (hmeets : Meets request r phase progress) (hout : request ∉ waiting.map Suspended.request) :
    Follows e s' (waiting ++ progress.left) t' := by
  have hold {p : Suspended} (hp : p ∈ waiting) :
      ∃ phase, t'.standing? p.request = some (p.attributes, phase) ∧
        Meets p.request p.attributes phase (.waits p) := by
    have hne : p.request ≠ request := fun heq => hout (heq ▸ List.mem_map_of_mem hp)
    rw [ha.standing_of_ne p.request hne]
    exact h.meets p hp
  rcases progress with outcome | w
  · rw [Progress.left, List.append_nil]
    exact ⟨ha.mirrors, h.nodup, fun p hp => hold hp⟩
  · obtain ⟨rfl, rfl, hwaits⟩ := hmeets
    refine ⟨ha.mirrors, ?_, fun p hp => ?_⟩
    · rw [Progress.left, List.map_append]
      exact List.nodup_append'.mpr ⟨h.nodup, List.nodup_singleton _,
        List.disjoint_singleton.mpr hout⟩
    · rcases List.mem_append.mp hp with hp | hp
      · exact hold hp
      · rw [List.mem_singleton.mp hp]
        exact ⟨phase, ha.standing_self, rfl, rfl, hwaits⟩

/-- Decisions that wait have come before. -/
theorem Follows.fresh (hnum : e.Numbered) (h : Follows e s waiting t) :
    s.bench.boards.length ∉ waiting.map Suspended.request := by
  intro hmem
  obtain ⟨p, hp, heq⟩ := List.mem_map.mp hmem
  obtain ⟨phase, hstanding, -⟩ := h.meets p hp
  exact Nat.ne_of_lt (h.mirrors.lt_boards hnum hstanding) heq

theorem Follows.filter (h : Follows e s waiting t) (wanted : Suspended → Bool) :
    Follows e s (waiting.filter wanted) t where
  mirrors := h.mirrors
  nodup := h.nodup.sublist (List.filter_sublist.map _)
  meets := fun p hp => h.meets p (List.mem_of_mem_filter hp)

/-- A decision that a call has returned is complete. -/
theorem Advances.complete {d : Decision Float} (hnum : e.Numbered)
    (h : Advances e s' request r (.returned (.ok d)) t t') :
    ∃ c, t'.calls[request]? = some c ∧ c.attributes = r ∧ t'.Complete e request c d := by
  obtain ⟨c, hc, hr, hphase⟩ := exists_call h.standing_self
  exact ⟨c, hc, hr, h.mirrors.reachable.complete hnum hc hphase⟩

end Mirrors

namespace Engine.Session

variable {e : Engine} {first s : EngineState} {waiting : List Suspended}

/-- **The traffic keeps up with the engine.** -/
theorem follows (hnum : e.Numbered) (hfirst : ∃ t, Mirrors e first t)
    (h : Session e first s waiting) :
    ∃ t, Mirrors.Follows e s waiting t := by
  induction h with
  | first =>
    obtain ⟨t, hm⟩ := hfirst
    exact ⟨t, hm, List.nodup_nil, fun _ hp => absurd hp List.not_mem_nil⟩
  | start r _ ih =>
    -- The new request has a number that no decision waits under.
    obtain ⟨t, ht⟩ := ih
    obtain ⟨t', phase, hmeets, ha⟩ := ht.mirrors.start hnum r
    exact ⟨t', ht.advance ha hmeets (ht.fresh hnum)⟩
  | resume p _ hp ih =>
    obtain ⟨t, ht⟩ := ih
    obtain ⟨phase, hstanding, hwaits⟩ := ht.meets p hp
    obtain ⟨t', phase', hmeets, ha⟩ := ht.mirrors.resume hnum hstanding hwaits
    refine ⟨t', (ht.filter _).advance ha hmeets ?_⟩
    simp
  | @decide s waiting net r _ ih =>
    obtain ⟨t, ht⟩ := ih
    obtain ⟨t', ha⟩ := ht.mirrors.decide hnum net r
    have hnext : Mirrors.Follows e (e.decide net r s).2
      (waiting ++ Progress.left (.over (e.decide net r s).1)) t' :=
      ht.advance ha rfl (ht.fresh hnum)
    rw [Progress.left, List.append_nil] at hnext
    exact ⟨t', hnext⟩
  | settle net _ ih =>
    obtain ⟨t, ht⟩ := ih
    obtain ⟨t', -, hm, hstanding⟩ := ht.mirrors.settle hnum net
    exact ⟨t', ht.of_standing hm hstanding⟩
  | closePool kind _ ih =>
    obtain ⟨t, ht⟩ := ih
    obtain ⟨t', hm, hstanding⟩ := ht.mirrors.closePool hnum kind
    exact ⟨t', ht.of_standing hm hstanding⟩
  | outside memories now queries subjects _ hcrews hbench ih =>
    obtain ⟨t, ht⟩ := ih
    obtain ⟨t', hm, hstanding⟩ := ht.mirrors.outside hcrews hbench
    exact ⟨t', ht.of_standing hm hstanding⟩

/-- **Every decision of an engine that was built is complete**, whether it came at once, after
waits, or in one go: some traffic is in the state that the engine has come to, and there the call
that decided rests on all checks of the stages that it ran. -/
theorem complete {c : Config} {now : Nat} {files : Files}
    (hbuild : Engine.build c now files = .ok (e, first))
    (h : Session e first s waiting) :
    (∀ r d, (e.start r s).1 = .over (.ok d) → ∃ t call, Mirrors e (e.start r s).2 t ∧
      t.calls[s.bench.boards.length]? = some call ∧ call.attributes = r ∧
      t.Complete e s.bench.boards.length call d) ∧
    (∀ p ∈ waiting, ∀ d, (e.resume p s).1 = .over (.ok d) → ∃ t call, Mirrors e (e.resume p s).2 t ∧
      t.calls[p.request]? = some call ∧ call.attributes = p.attributes ∧
        t.Complete e p.request call d) ∧
    ∀ net r d, (e.decide net r s).1 = .ok d → ∃ t call, Mirrors e (e.decide net r s).2 t ∧
      t.calls[s.bench.boards.length]? = some call ∧ call.attributes = r ∧
      t.Complete e s.bench.boards.length call d := by
  obtain ⟨hnum, hfirst⟩ := Mirrors.of_build hbuild
  obtain ⟨t, ht⟩ := h.follows hnum hfirst
  refine ⟨fun r d hd => ?_, fun p hp d hd => ?_, fun net r d hd => ?_⟩
  · obtain ⟨t', phase, hmeets, ha⟩ := ht.mirrors.start hnum r
    rw [hd] at hmeets
    obtain rfl : phase = .returned (.ok d) := hmeets
    obtain ⟨call, hcall⟩ := ha.complete hnum
    exact ⟨t', call, ha.mirrors, hcall⟩
  · obtain ⟨phase, hstanding, hwaits⟩ := ht.meets p hp
    obtain ⟨t', phase', hmeets, ha⟩ := ht.mirrors.resume hnum hstanding hwaits
    rw [hd] at hmeets
    obtain rfl : phase' = .returned (.ok d) := hmeets
    obtain ⟨call, hcall⟩ := ha.complete hnum
    exact ⟨t', call, ha.mirrors, hcall⟩
  · obtain ⟨t', ha⟩ := ht.mirrors.decide hnum net r
    rw [hd] at ha
    obtain ⟨call, hcall⟩ := ha.complete hnum
    exact ⟨t', call, ha.mirrors, hcall⟩

end Engine.Session
end MailPolicy
