/-
What a score holds while a decision goes through its stages.

The slots are numbered through all stages, and a stage writes its own slots only.  So the score
that a decision on given outcomes has reached is always the score of the first so many slots:

* `Score.filled` — the first `k` slots hold what was written to them, the others are neutral;
* `Score.total_filled` — its total is the sum over those slots, in slot order;
* `PlacedStage.evaluate_filled` — evaluating a stage fills the slots of that stage;
* `Decision.run_evaluate_cons`, `Decision.run_evaluate_of_fault` — what the loop does with a
  stage;
* `Decision.of_run_place` — a loop that leaves out no stage decides by the total of all slots.
-/
import Mathlib.Data.List.Basic
import MailPolicy.Engine.Outcomes

namespace MailPolicy

variable {κ α : Type}

/-! ### Filled scores -/

namespace Score

/-- The score of `size` slots of which the first `k` hold what was written to them. -/
def filled (points : Nat → Option α) (size k : Nat) : Score α :=
  ⟨(List.range size).map fun slot => if slot < k then points slot else none⟩

/-- The sum of what was written to the first `k` slots, in slot order. -/
def totalBelow [Zero α] [Add α] (points : Nat → Option α) (k : Nat) : α :=
  ((List.range k).filterMap points).foldl (· + ·) 0

variable {points : Nat → Option α} {size k : Nat}

@[simp] theorem filled_zero : filled points size 0 = blank size := by
  simp [filled, blank, List.map_const']

theorem record_filled (h : k < size) :
    (filled points size k).record points k = filled points size (k + 1) := by
  unfold record
  cases hk : points k with
  | none =>
    -- A neutral slot stays as it is, whether it counts as filled or not.
    simp only [filled, Score.mk.injEq, List.map_inj_left, List.mem_range]
    intro slot _
    rcases Nat.lt_trichotomy slot k with hlt | rfl | hgt
    · rw [if_pos hlt, if_pos (by omega)]
    · rw [if_neg (by omega), if_pos (by omega), hk]
    · rw [if_neg (by omega), if_neg (by omega)]
  | some x =>
    simp only [filled, update, Score.mk.injEq]
    apply List.ext_getElem
    · simp
    · intro slot h1 h2
      simp only [List.length_map, List.length_range] at h2
      rw [List.getElem_set]
      simp only [List.getElem_map, List.getElem_range]
      rcases Nat.lt_trichotomy slot k with hlt | rfl | hgt
      · rw [if_neg (by omega), if_pos hlt, if_pos (by omega)]
      · rw [if_pos rfl, if_pos (by omega), hk]
      · rw [if_neg (by omega), if_neg (by omega), if_neg (by omega)]

/-- Writing a run of slots fills them. -/
theorem foldl_record_filled {n : Nat} (h : k + n ≤ size) :
    (List.range' k n).foldl (·.record points) (filled points size k) = filled points size
    (k + n) := by
  induction n generalizing k with
  | zero => rfl
  | succ n ih =>
    rw [List.range'_succ, List.foldl_cons, record_filled (by omega), ih (by omega)]
    congr 1
    omega

/-- A write to a score that is filled shows in what was written. -/
theorem update_filled (slot : Nat) (x : α) :
    (filled points size size).update slot x =
      filled (fun i => if i = slot then some x else points i) size size := by
  simp only [filled, update, Score.mk.injEq]
  apply List.ext_getElem
  · simp
  · intro i h1 h2
    rw [List.getElem_set]
    simp only [List.getElem_map, List.getElem_range]
    rcases eq_or_ne slot i with rfl | hne
    · rw [if_pos rfl, if_pos rfl]
      simp only [List.length_map, List.length_range] at h2
      rw [if_pos h2]
    · rw [if_neg hne, if_neg (Ne.symm hne)]

/-- Where nothing was written from the slot `k` on, it does not matter whether those slots count
as filled. -/
theorem filled_of_neutral (h : ∀ slot, k ≤ slot → points slot = none) :
    filled points size size = filled points size k := by
  simp only [filled, Score.mk.injEq, List.map_inj_left, List.mem_range]
  intro slot hslot
  rw [if_pos hslot]
  by_cases hk : slot < k
  · rw [if_pos hk]
  · rw [if_neg hk, h slot (Nat.le_of_not_lt hk)]

theorem values_filled (h : k ≤ size) :
    (filled points size k).values = (List.range k).filterMap points := by
  obtain ⟨rest, rfl⟩ := Nat.exists_eq_add_of_le h
  have hlow : (List.range k).filterMap (fun slot => if slot < k then points slot else none) =
      (List.range k).filterMap points := by
    apply List.filterMap_congr
    intro slot hslot
    rw [if_pos (List.mem_range.mp hslot)]
  have hhigh : ((List.range rest).map (k + ·)).filterMap
      (fun slot => if slot < k then points slot else none) = [] := by
    rw [List.filterMap_eq_nil_iff]
    intro slot hslot
    obtain ⟨i, -, rfl⟩ := List.mem_map.mp hslot
    rw [if_neg (by omega)]
  simp only [values, filled, List.filterMap_map, Function.id_comp]
  rw [List.range_add, List.filterMap_append, hlow, hhigh, List.append_nil]

theorem total_filled [Zero α] [Add α] (h : k ≤ size) :
    (filled points size k).total = totalBelow points k := by
  rw [total, values_filled h, totalBelow]

/-- Only what was written below a slot counts in the total below it. -/
theorem totalBelow_congr [Zero α] [Add α] {other : Nat → Option α}
    (h : ∀ slot < k, points slot = other slot) : totalBelow points k = totalBelow other k := by
  unfold totalBelow
  congr 1
  exact List.filterMap_congr fun slot hslot => h slot (List.mem_range.mp hslot)

end Score

/-! ### Evaluating a stage -/

theorem Stage.map_stage_place [Zero α] [Add α] (bounds : κ → Bounds α) (k : Nat)
    (stages : List (Stage κ)) :
    (place bounds k stages).1.map (·.stage) = stages := by
  induction stages generalizing k with
  | nil => rfl
  | cons s rest ih =>
    rw [place, List.map_cons, ih]

theorem Stage.slotCount_cons (s : Stage κ) (rest : List (Stage κ)) :
    slotCount (s :: rest) = s.checks.length + slotCount rest := by
  simp [slotCount]

namespace PlacedStage

/-- The slot after the last one of a stage. -/
def stop (stage : PlacedStage κ α) : Nat := stage.firstSlot + stage.stage.checks.length

theorem evaluate_of_fault [Zero α] [Add α] {o : Outcomes κ α} {stage : PlacedStage κ α} {f : Fault}
    (h : o.fault? stage = some f) (score : Score α) : evaluate o stage score = .error f := by
  simp [evaluate, h]

/-- A stage without a fault fills its own slots, and the total after it is that of all slots so
far. -/
theorem evaluate_filled [Zero α] [Add α] {o : Outcomes κ α} {stage : PlacedStage κ α} {size : Nat}
    (h : o.fault? stage = none) (hfit : stage.stop ≤ size) :
    evaluate o stage (.filled o.points size stage.firstSlot) =
      .ok (Score.totalBelow o.points stage.stop, .filled o.points size stage.stop) := by
  simp only [evaluate, h, slots]
  rw [Score.foldl_record_filled hfit]
  change Except.ok ((Score.filled o.points size stage.stop).total, _) = _
  rw [Score.total_filled hfit]
  rfl

end PlacedStage

/-! ### One round of the loop -/

namespace Decision

variable [Zero α] [Add α] [LE α] [DecidableLE α] {t : Thresholds α} {shortCircuit : Bool}
  {o : Outcomes κ α} {stage : PlacedStage κ α} {rest : List (PlacedStage κ α)}

/-- A fault of a stage ends the loop. -/
theorem run_evaluate_of_fault {f : Fault} (h : o.fault? stage = some f) (stagesRun : Nat)
    (total : α)
    (score : Score α) :
    run t shortCircuit (PlacedStage.evaluate o) stagesRun total (stage :: rest) score =
      .error f := by
  show (PlacedStage.evaluate o stage score >>= _) = _
  rw [PlacedStage.evaluate_of_fault h]
  rfl

/-- A stage without a fault fills its slots, and either fixes the verdict or hands over to the
next. -/
theorem run_evaluate_cons {size : Nat} (h : o.fault? stage = none) (hfit : stage.stop ≤ size)
    (stagesRun : Nat) (total : α) :
    run t shortCircuit (PlacedStage.evaluate o) stagesRun total (stage :: rest)
        (.filled o.points size stage.firstSlot) =
      match if shortCircuit then stage.fixedVerdict? t
        (Score.totalBelow o.points stage.stop) else none with
      | some verdict =>
        .ok (⟨verdict, Score.totalBelow o.points stage.stop, stagesRun + 1⟩,
          .filled o.points size stage.stop)
      | none =>
        run t shortCircuit (PlacedStage.evaluate o) (stagesRun + 1)
          (Score.totalBelow o.points stage.stop) rest (.filled o.points size stage.stop) := by
  show (PlacedStage.evaluate o stage (.filled o.points size stage.firstSlot) >>= _) = _
  rw [PlacedStage.evaluate_filled h hfit]
  simp only [bind, Except.bind]
  generalize (if shortCircuit then stage.fixedVerdict? t _ else none) = fixed
  cases fixed with
  | none => rfl
  | some verdict => rfl

/-- A decision on given outcomes runs on the score of no slot yet. -/
theorem ofOutcomes_layout (t : Thresholds α) (shortCircuit : Bool) (o : Outcomes κ α)
    (bounds : κ → Bounds α) (stages : List (Stage κ)) :
    ofOutcomes t shortCircuit o (Stage.layout bounds stages) =
      (run t shortCircuit (PlacedStage.evaluate o) 0 (Score.totalBelow o.points 0)
        (Stage.place bounds 0 stages).1
        (.filled o.points (Stage.slotCount stages) 0)).map Prod.fst := by
  rw [ofOutcomes, Stage.layout, Stage.map_stage_place, Score.filled_zero]
  rfl

/-- A loop that goes through all stages and ends well has met no fault, and decides by the final
total. -/
theorem of_run_place {bounds : κ → Bounds α} {stages : List (Stage κ)} {size k stagesRun : Nat}
    {d : Decision α} {score : Score α} (hfit : k + Stage.slotCount stages ≤ size)
    (h : run t false (PlacedStage.evaluate o) stagesRun (Score.totalBelow o.points k)
      (Stage.place bounds k stages).1 (.filled o.points size k) = .ok (d, score)) :
    (∀ stage ∈ (Stage.place bounds k stages).1, o.fault? stage = none) ∧
      d = ⟨.ofTotal t (Score.totalBelow o.points (k + Stage.slotCount stages)),
        Score.totalBelow o.points (k + Stage.slotCount stages), stagesRun + stages.length⟩ := by
  induction stages generalizing k stagesRun with
  | nil =>
    rw [Stage.place, run] at h
    obtain ⟨rfl, -⟩ := Prod.mk.inj (Except.ok.inj h)
    exact ⟨fun stage hstage => absurd hstage List.not_mem_nil, rfl⟩
  | cons s rest ih =>
    rw [Stage.slotCount_cons, ← Nat.add_assoc] at hfit ⊢
    rw [Stage.place] at h ⊢
    set first : PlacedStage κ α :=
      ⟨s, k, Stage.sumBounds bounds s.checks, (Stage.place bounds (k + s.checks.length) rest).2⟩
    cases hfault : o.fault? first with
    | some f =>
      rw [run_evaluate_of_fault hfault] at h
      cases h
    | none =>
      -- The first stage fills its slots and hands over, since nothing is left out.
      rw [run_evaluate_cons hfault (Nat.le_trans (Nat.le_add_right _ _) hfit)] at h
      obtain ⟨hfaults, rfl⟩ := ih hfit h
      refine ⟨?_, ?_⟩
      · intro stage hstage
        rcases List.mem_cons.mp hstage with rfl | hstage
        · exact hfault
        · exact hfaults stage hstage
      · rw [List.length_cons, Nat.add_assoc stagesRun, Nat.add_comm 1]

end Decision

end MailPolicy
