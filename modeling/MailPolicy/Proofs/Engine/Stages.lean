/-
How far a decision has come.

A decision that has evaluated the first `n` stages goes on with the others, and both as a plan and
as a run on given outcomes what is left is determined by `n` and by the total so far.

* `Engine.stopAfter` — the slot after the first `n` stages;
* `Engine.Numbered` — the slots are numbered through all stages, as `Stage.layout` does it;
* `Engine.planFrom`, `Engine.runFrom` — what is left after `n` stages, as a plan and as a run;
* `Engine.Reached` — given the outcomes so far, the decision has come to the stage after the first
  `n`.
-/
import MailPolicy.Engine.Traffic
import MailPolicy.Proofs.Engine.Outcomes

namespace MailPolicy

/-! ### Slots -/

theorem Stage.slotCount_append {κ : Type} (a b : List (Stage κ)) :
    slotCount (a ++ b) = slotCount a + slotCount b := by
  rw [slotCount, List.flatMap_append, List.length_append, slotCount, slotCount]

namespace Engine

variable {e : Engine} {n : Nat} {stage : PlacedStage Check Float}

/-- The slot after the first `n` stages. -/
def stopAfter (e : Engine) (n : Nat) : Nat := Stage.slotCount ((e.stages.take n).map (·.stage))

/-- Whether the slots are numbered through all stages. -/
def Numbered (e : Engine) : Prop :=
  ∀ n stage, e.stages[n]? = some stage → stage.firstSlot = e.stopAfter n

theorem stopAfter_zero (e : Engine) : e.stopAfter 0 = 0 := rfl

theorem stopAfter_succ (h : e.stages[n]? = some stage) :
    e.stopAfter (n + 1) = e.stopAfter n + stage.stage.checks.length := by
  rw [stopAfter, List.take_add_one, h, Option.toList_some, List.map_append, Stage.slotCount_append,
    ← stopAfter,
    List.map_singleton, Stage.slotCount_cons]
  rfl

theorem stopAfter_le_slots (e : Engine) (n : Nat) : e.stopAfter n ≤ e.slots := by
  have happend : e.slots = e.stopAfter n + Stage.slotCount ((e.stages.drop n).map (·.stage)) := by
    rw [stopAfter, ← Stage.slotCount_append, ← List.map_append, List.take_append_drop, slots]
  omega

theorem stop_eq (hnum : e.Numbered) (h : e.stages[n]? = some stage) :
    stage.stop = e.stopAfter (n + 1) := by
  rw [PlacedStage.stop, hnum n stage h, stopAfter_succ h]

theorem stopAfter_mono (e : Engine) {m n : Nat} (h : m ≤ n) : e.stopAfter m ≤ e.stopAfter n := by
  have hsplit : e.stopAfter n =
      e.stopAfter m + Stage.slotCount (((e.stages.take n).drop m).map (·.stage)) := by
    rw [stopAfter, stopAfter, ← Stage.slotCount_append, ← List.map_append]
    congr 2
    have htake : (e.stages.take n).take m = e.stages.take m := by
      rw [List.take_take, Nat.min_eq_left h]
    rw [← htake, List.take_append_drop]
  omega

/-- The checks by slot are those of the stages by number. -/
theorem checks_getElem? (hnum : e.Numbered) (h : e.stages[n]? = some stage) {offset : Nat}
    (hoffset : offset < stage.stage.checks.length) :
    e.checks[stage.firstSlot + offset]? = stage.stage.checks[offset]? := by
  have hlength : ((e.stages.take n).flatMap (·.stage.checks)).length = stage.firstSlot := by
    rw [hnum n stage h, stopAfter, Stage.slotCount, List.flatMap_map]
  have hsplit : e.checks = (e.stages.take n).flatMap (·.stage.checks) ++
      (stage.stage.checks ++ (e.stages.drop (n + 1)).flatMap (·.stage.checks)) := by
    obtain ⟨hlt, rfl⟩ := List.getElem?_eq_some_iff.mp h
    rw [← List.flatMap_cons (f := fun s : PlacedStage Check Float => s.stage.checks),
      ← List.drop_eq_getElem_cons hlt, ← List.flatMap_append, List.take_append_drop, checks]
  rw [hsplit, ← hlength, List.getElem?_append_right (Nat.le_add_right _ _), Nat.add_sub_cancel_left,
    List.getElem?_append_left hoffset]

theorem place_getElem? {κ α : Type} [Zero α] [Add α] (bounds : κ → Bounds α)
    (stages : List (Stage κ))
    (k n : Nat) {stage : PlacedStage κ α} (h : (Stage.place bounds k stages).1[n]? = some stage) :
    stage.firstSlot = k + Stage.slotCount (stages.take n) := by
  induction stages generalizing k n with
  | nil => cases h
  | cons s rest ih =>
    rw [Stage.place] at h
    cases n with
    | zero =>
      obtain rfl := Option.some.inj h
      rfl
    | succ n =>
      rw [List.getElem?_cons_succ] at h
      rw [ih _ n h, List.take_succ_cons, Stage.slotCount_cons, Nat.add_assoc]

/-- Stages that were laid out are numbered. -/
theorem numbered_of_layout {stages : List (Stage Check)}
    (h : e.stages = Stage.layout Check.bounds stages) :
    e.Numbered := by
  intro n stage hn
  have hplace := hn
  rw [h] at hplace
  rw [place_getElem? Check.bounds stages 0 n hplace, Nat.zero_add, stopAfter, List.map_take, h,
    Stage.layout,
    Stage.map_stage_place]

/-! ### What is left -/

/-- The verdict that a stage fixes with the total after it, if stages may be left out. -/
def fixed? (e : Engine) (stage : PlacedStage Check Float) (total : Float) : Option Verdict :=
  if e.policy.shortCircuit then stage.fixedVerdict? e.policy.thresholds total else none

/-- How a decision goes on with the total after a stage, `n` having been evaluated before. -/
def after (e : Engine) (n : Nat) (stage : PlacedStage Check Float) (total : Float) :
    Plan Check Float (Decision Float) :=
  match e.fixed? stage total with
  | some verdict => .done ⟨verdict, total, n + 1⟩
  | none =>
    Decision.run e.policy.thresholds e.policy.shortCircuit Plan.ask (n + 1) total
      (e.stages.drop (n + 1))

/-- The plan of a decision that has evaluated `n` stages with the given total. -/
def planFrom (e : Engine) (n : Nat) (total : Float) : Plan Check Float (Decision Float) :=
  Decision.run e.policy.thresholds e.policy.shortCircuit Plan.ask n total (e.stages.drop n)

theorem after_of_fixed {total : Float} {verdict : Verdict}
    (h : e.fixed? stage total = some verdict) :
    e.after n stage total = .done ⟨verdict, total, n + 1⟩ := by
  rw [after, h]

theorem after_of_none {total : Float} (h : e.fixed? stage total = none) :
    e.after n stage total = e.planFrom (n + 1) total := by
  rw [after, h, planFrom]

theorem planFrom_of_getElem? (h : e.stages[n]? = some stage) (total : Float) :
    e.planFrom n total = .evaluate stage (e.after n stage) := by
  obtain ⟨hlt, rfl⟩ := List.getElem?_eq_some_iff.mp h
  rw [planFrom, List.drop_eq_getElem_cons hlt]
  rfl

theorem planFrom_of_getElem?_eq_none (h : e.stages[n]? = none) (total : Float) :
    e.planFrom n total = .done ⟨.ofTotal e.policy.thresholds total, total, n⟩ := by
  rw [planFrom, List.drop_eq_nil_of_le (List.getElem?_eq_none_iff.mp h)]
  rfl

/-- The decision on given outcomes by the stages after the first `n`. -/
def runFrom (e : Engine) (o : Outcomes Check Float) (n : Nat) : Except Fault (Decision Float) :=
  (Decision.run e.policy.thresholds e.policy.shortCircuit (PlacedStage.evaluate o) n
    (Score.totalBelow o.points (e.stopAfter n)) (e.stages.drop n)
    (.filled o.points e.slots (e.stopAfter n))).map Prod.fst

theorem runFrom_zero (e : Engine) (o : Outcomes Check Float) :
    e.runFrom o 0 = Decision.ofOutcomes e.policy.thresholds e.policy.shortCircuit o e.stages := by
  rw [runFrom, Decision.ofOutcomes, stopAfter_zero, Score.filled_zero, List.drop_zero]
  rfl

theorem runFrom_of_getElem? (hnum : e.Numbered) (h : e.stages[n]? = some stage)
    {o : Outcomes Check Float}
    (hfault : o.fault? stage = none) :
    e.runFrom o n =
      match e.fixed? stage (Score.totalBelow o.points (e.stopAfter (n + 1))) with
      | some verdict => .ok ⟨verdict, Score.totalBelow o.points (e.stopAfter (n + 1)), n + 1⟩
      | none => e.runFrom o (n + 1) := by
  have hstop := stop_eq hnum h
  obtain ⟨hlt, hget⟩ := List.getElem?_eq_some_iff.mp h
  have hfit : stage.stop ≤ e.slots := hstop ▸ e.stopAfter_le_slots (n + 1)
  rw [runFrom, List.drop_eq_getElem_cons hlt, hget, ← hnum n stage h,
    Decision.run_evaluate_cons hfault hfit, hstop,
    fixed?]
  generalize (if e.policy.shortCircuit then stage.fixedVerdict? e.policy.thresholds _ else none) = fixed
  cases fixed with
  | none => rfl
  | some verdict => rfl

theorem runFrom_of_getElem?_eq_none (h : e.stages[n]? = none) (o : Outcomes Check Float) :
    e.runFrom o n = .ok ⟨.ofTotal e.policy.thresholds (Score.totalBelow o.points (e.stopAfter n)),
      Score.totalBelow o.points (e.stopAfter n), n⟩ := by
  rw [runFrom, List.drop_eq_nil_of_le (List.getElem?_eq_none_iff.mp h)]
  rfl

/-! ### How far -/

/-- Whether outcomes come without a fault and agree with what was written to the first `k` slots. -/
structure Outcomes.Extends (o : Outcomes Check Float) (points : Nat → Option Float) (k : Nat) :
    Prop where
  fault?_eq_none : ∀ stage, o.fault? stage = none
  points_eq : ∀ slot < k, o.points slot = points slot

/-- Whether the decision on what was written so far has come to the stage after the first `n`. -/
def Reached (e : Engine) (points : Nat → Option Float) (n : Nat) : Prop :=
  ∀ o : Outcomes Check Float, Outcomes.Extends o points (e.stopAfter n) →
    Decision.ofOutcomes e.policy.thresholds e.policy.shortCircuit o e.stages = e.runFrom o n

/-- Whether the decision on what was written so far is made, whatever else may be written. -/
def Decides (e : Engine) (points : Nat → Option Float) (d : Decision Float) : Prop :=
  ∀ o : Outcomes Check Float, Outcomes.Extends o points (e.stopAfter d.stagesRun) →
    Decision.ofOutcomes e.policy.thresholds e.policy.shortCircuit o e.stages = .ok d

variable {points : Nat → Option Float}

theorem reached_zero (e : Engine) (points : Nat → Option Float) : e.Reached points 0 := by
  intro o _
  rw [runFrom_zero]

theorem Outcomes.Extends.mono {o : Outcomes Check Float} {j k : Nat}
    (h : Outcomes.Extends o points k) (hjk : j ≤ k) :
    Outcomes.Extends o points j :=
  ⟨h.fault?_eq_none, fun slot hslot => h.points_eq slot (Nat.lt_of_lt_of_le hslot hjk)⟩

theorem Outcomes.Extends.totalBelow_eq {o : Outcomes Check Float} {k : Nat}
    (h : Outcomes.Extends o points k) :
    Score.totalBelow o.points k = Score.totalBelow points k := Score.totalBelow_congr h.points_eq

/-- Without a stage left the decision is made. -/
theorem Reached.decides_of_none (h : e.Reached points n) (hn : e.stages[n]? = none) :
    e.Decides points ⟨.ofTotal e.policy.thresholds (Score.totalBelow points (e.stopAfter n)),
      Score.totalBelow points (e.stopAfter n), n⟩ := by
  intro o ho
  rw [h o ho, runFrom_of_getElem?_eq_none hn, ho.totalBelow_eq]

/-- A stage that fixes the verdict makes the decision. -/
theorem Reached.decides_of_fixed (hnum : e.Numbered) (h : e.Reached points n)
    (hn : e.stages[n]? = some stage) {v : Verdict}
    (hfixed : e.fixed? stage (Score.totalBelow points (e.stopAfter (n + 1))) = some v) :
    e.Decides points ⟨v, Score.totalBelow points (e.stopAfter (n + 1)), n + 1⟩ := by
  intro o ho
  rw [h o (ho.mono (e.stopAfter_mono (Nat.le_succ n))), runFrom_of_getElem? hnum hn
    (ho.fault?_eq_none stage),
    ho.totalBelow_eq, hfixed]

/-- A stage that does not hands over to the next. -/
theorem Reached.succ (hnum : e.Numbered) (h : e.Reached points n) (hn : e.stages[n]? = some stage)
    (hfixed : e.fixed? stage (Score.totalBelow points (e.stopAfter (n + 1))) = none) :
    e.Reached points (n + 1) := by
  intro o ho
  rw [h o (ho.mono (e.stopAfter_mono (Nat.le_succ n))), runFrom_of_getElem? hnum hn
    (ho.fault?_eq_none stage),
    ho.totalBelow_eq, hfixed]

/-- What is written to later slots does not matter. -/
theorem Reached.congr {other : Nat → Option Float} (h : e.Reached points n)
    (heq : ∀ slot < e.stopAfter n, other slot = points slot) : e.Reached other n := by
  intro o ho
  exact h o ⟨ho.fault?_eq_none, fun slot hslot => (ho.points_eq slot hslot).trans (heq slot hslot)⟩

end Engine
end MailPolicy
