/-
Engines that were built from a configuration.

* `Engine.Draft.Manned` — every check so far that works in the background has a pool of its kind;
* `Engine.build_spec` — what building an engine comes to;
* `Mirrors.of_build` — **the first state of an engine is that of some traffic**.
-/
import MailPolicy.Proofs.Check.Build
import MailPolicy.Proofs.Engine.Runs

namespace MailPolicy

theorem Stage.checks_add {κ : Type} {nameOf : κ → Text} {s s' : Stage κ} {check : κ}
    (h : s.add nameOf check = .ok s') : s'.checks = s.checks ++ [check] := by
  unfold add at h
  split at h
  · cases h
  · cases h
    rfl

namespace Engine

variable {backoff : BackoffSettings} {now : Nat} {files : Files}

namespace Draft

/-- The checks of the stages that are complete. -/
def checks (d : Draft) : List Check := d.stages.flatMap (·.checks)

/-- Whether the kinds at hand are those of all checks in the background, each once. -/
structure Manned (d : Draft) (checks : List Check) : Prop where
  nodup : d.kinds.Nodup
  mem_kinds : ∀ check ∈ checks, check.kind.isBackground = true → check.kind ∈ d.kinds

variable {d d' : Draft}

/-- One more check. -/
theorem Manned.add {checks : List Check} (h : d.Manned checks) (check : Check)
    {memories : List Memory} :
    Manned { d with
      memories := memories
      kinds := if check.kind.isBackground ∧ check.kind ∉ d.kinds then d.kinds ++
        [check.kind] else d.kinds }
      (checks ++ [check]) := by
  split
  · next hnew =>
    refine ⟨?_, fun other hother hback => ?_⟩
    · exact List.nodup_append'.mpr
        ⟨h.nodup, List.nodup_singleton _, List.disjoint_singleton.mpr hnew.2⟩
    · rcases List.mem_append.mp hother with hold | hsame
      · exact List.mem_append_left _ (h.mem_kinds other hold hback)
      · rw [List.mem_singleton.mp hsame]
        exact List.mem_concat_self
  · next hold =>
    refine ⟨h.nodup, fun other hother hback => ?_⟩
    rcases List.mem_append.mp hother with hmem | hsame
    · exact h.mem_kinds other hmem hback
    · rw [List.mem_singleton.mp hsame] at hback ⊢
      by_contra hout
      exact hold ⟨hback, hout⟩

theorem Manned.addChecks {settings : List CheckSettings} {stage : Stage Check}
    (h : d.Manned (d.checks ++ stage.checks))
    (hadd : addChecks backoff now files settings stage d = .ok d') : d'.Manned d'.checks := by
  induction settings generalizing stage d with
  | nil =>
    cases hadd
    refine ⟨h.nodup, fun check hcheck => ?_⟩
    rw [Draft.checks, List.flatMap_append, List.flatMap_singleton] at hcheck
    exact h.mem_kinds check hcheck
  | cons s rest ih =>
    unfold Engine.addChecks at hadd
    cases hbuild : Check.build s backoff now files with
    | error err => simp [hbuild] at hadd
    | ok built =>
      obtain ⟨check, memory⟩ := built
      simp only [hbuild] at hadd
      cases hstage : stage.add Check.name check with
      | error err => simp [hstage] at hadd
      | ok stage' =>
        simp only [hstage] at hadd
        refine ih ?_ hadd
        rw [← Check.kind_of_build hbuild, Stage.checks_add hstage, ← List.append_assoc]
        exact h.add check

theorem Manned.addStages {settings : List StageSettings} {number : Nat} (h : d.Manned d.checks)
    (hadd : addStages backoff now files number settings d = .ok d') : d'.Manned d'.checks := by
  induction settings generalizing number d with
  | nil =>
    cases hadd
    exact h
  | cons s rest ih =>
    unfold Engine.addStages at hadd
    cases hchecks : Engine.addChecks backoff now files s.checks ⟨stageName number s, []⟩ d with
    | error err => simp [hchecks] at hadd
    | ok d₁ =>
      simp only [hchecks] at hadd
      refine ih (Manned.addChecks ?_ hchecks) hadd
      rw [List.append_nil]
      exact h

end Draft

/-- What building an engine comes to. -/
theorem build_spec {c : Config} {e : Engine} {s : EngineState}
    (h : build c now files = .ok (e, s)) :
    ∃ d : Draft, d.Manned d.checks ∧ e.stages = Stage.layout Check.bounds d.stages ∧
      s.bench = { checks := d.checks, memories := d.memories, now := now } ∧
      s.crews = d.kinds.map fun kind =>
        (kind, { pool := .ofSettings kind.name (c.poolFor kind.name.toList) true }) := by
  unfold build at h
  cases hadd : addStages c.backoff now files 1 c.stages {} with
  | error err => simp [hadd] at h
  | ok d =>
    simp only [hadd] at h
    cases h
    have hnone : Draft.Manned {} (Draft.checks {}) :=
      ⟨List.nodup_nil, fun _ hmem => absurd hmem List.not_mem_nil⟩
    exact ⟨d, hnone.addStages hadd, rfl, rfl, rfl⟩

end Engine

/-- **The first state of an engine is that of some traffic.** -/
theorem Mirrors.of_build {c : Config} {now : Nat} {files : Files} {e : Engine} {s : EngineState}
    (h : Engine.build c now files = .ok (e, s)) : e.Numbered ∧ ∃ t, Mirrors e s t := by
  obtain ⟨d, hmanned, hstages, hbench, hcrews⟩ := Engine.build_spec h
  have hchecks : e.checks = d.checks := by
    rw [Engine.checks, hstages, Stage.layout, Engine.Draft.checks,
      ← List.flatMap_map PlacedStage.stage Stage.checks, Stage.map_stage_place]
  have hkinds : s.crews.map Prod.fst = d.kinds := by
    rw [hcrews, List.map_map]
    exact List.map_id d.kinds
  refine ⟨Engine.numbered_of_layout hstages,
    .start e d.memories now (fun kind => c.poolFor kind.name.toList) true, ⟨_, _, _, _, .refl⟩, ?_,
      ?_, ?_, ?_, ?_⟩
  · exact fun kind p hp => absurd hp List.not_mem_nil
  · rw [hbench, ← hchecks]
    rfl
  · intro pool hpool
    rw [hcrews] at hpool
    obtain ⟨kind, -, rfl⟩ := List.mem_map.mp hpool
    rfl
  · rw [hkinds]
    exact hmanned.nodup
  · rw [hkinds, hchecks]
    exact hmanned.mem_kinds

end MailPolicy
