/-
Leaving out stages does not change a verdict.

In exact arithmetic the total that a decision can still reach lies between the current total plus
the least and the current total plus the most that the later stages can add.  If both ends get one
verdict, so does every total between them, the final one included.

* `Bounds.Admits` — what a check writes, or that it writes nothing, is within its range;
* `Stage.totalBelow_place` — the total after all stages lies in the range that the stages were
  laid out with;
* `PlacedStage.ofTotal_of_fixedVerdict?` — a verdict that is fixed is the verdict on every total
  in range;
* `Decision.ofOutcomes_shortCircuit` — with stages left out the verdict is the same, and no more
  stages run.
-/
import Mathlib.Algebra.BigOperators.Group.List.Basic
import Mathlib.Algebra.Order.Ring.Rat
import Mathlib.Tactic.Linarith
import MailPolicy.Proofs.Engine.Outcomes

namespace MailPolicy

variable {κ : Type}

/-! ### What checks can add -/

/-- Whether a range holds zero and whatever is written. -/
structure Bounds.Admits (b : Bounds ℚ) (points : Option ℚ) : Prop where
  low_le_zero : b.low ≤ 0
  zero_le_high : 0 ≤ b.high
  mem : ∀ x ∈ points, b.low ≤ x ∧ x ≤ b.high

instance (b : Bounds ℚ) (points : Option ℚ) : Decidable (b.Admits points) :=
  decidable_of_iff (b.low ≤ 0 ∧ 0 ≤ b.high ∧ ∀ x ∈ points, b.low ≤ x ∧ x ≤ b.high)
    ⟨fun ⟨h1, h2, h3⟩ => ⟨h1, h2, h3⟩, fun ⟨h1, h2, h3⟩ => ⟨h1, h2, h3⟩⟩

/-- What is added to the total, nothing if there is no write, lies in the range. -/
theorem Bounds.Admits.getD_mem {b : Bounds ℚ} {points : Option ℚ} (h : b.Admits points) :
    b.low ≤ points.getD 0 ∧ points.getD 0 ≤ b.high := by
  cases points with
  | none => exact ⟨h.low_le_zero, h.zero_le_high⟩
  | some x => exact h.mem x rfl

/-- What is written to the slots from `first` on adds up to this. -/
def Score.added (points : Nat → Option ℚ) (first n : Nat) : ℚ :=
  ((List.range' first n).map fun slot => (points slot).getD 0).sum

theorem Score.added_succ (points : Nat → Option ℚ) (first n : Nat) :
    added points first (n + 1) = (points first).getD 0 + added points (first + 1) n := by
  rw [added, List.range'_succ, List.map_cons, List.sum_cons, added]

theorem Score.sum_filterMap (points : Nat → Option ℚ) (slots : List Nat) :
    (slots.filterMap points).sum = (slots.map fun slot => (points slot).getD 0).sum := by
  induction slots with
  | nil => rfl
  | cons slot rest ih =>
    rw [List.map_cons, List.sum_cons, ← ih]
    cases h : points slot with
    | none => rw [List.filterMap_cons_none h, Option.getD_none, zero_add]
    | some x => rw [List.filterMap_cons_some h, List.sum_cons, Option.getD_some]

/-- The total grows by what is written to the slots that follow. -/
theorem Score.totalBelow_add (points : Nat → Option ℚ) (k n : Nat) :
    totalBelow points (k + n) = totalBelow points k + added points k n := by
  have happend : List.range (k + n) = List.range k ++ List.range' k n := by
    simpa [List.range_eq_range'] using (List.range'_append_1 (s := 0) (m := k) (n := n)).symm
  unfold totalBelow
  rw [← List.sum_eq_foldl, ← List.sum_eq_foldl, happend, List.filterMap_append, List.sum_append,
    sum_filterMap points (List.range' k n), added]

/-! ### What stages can add -/

namespace Stage

variable {bounds : κ → Bounds ℚ} {points : Nat → Option ℚ}

/-- What checks add together lies in the sum of their ranges. -/
theorem added_mem_sumBounds (checks : List κ) (first : Nat)
    (h : ∀ i (hi : i < checks.length), (bounds checks[i]).Admits (points (first + i))) :
    (sumBounds bounds checks).low ≤ Score.added points first checks.length ∧
      Score.added points first checks.length ≤ (sumBounds bounds checks).high := by
  simp only [sumBounds, ← List.sum_eq_foldl]
  induction checks generalizing first with
  | nil => simp [Score.added]
  | cons c rest ih =>
    have hc := (h 0 (Nat.succ_pos _)).getD_mem
    have hrest := ih (first + 1) fun i hi => by
      have hsucc := h (i + 1) (Nat.succ_lt_succ hi)
      rwa [show first + (i + 1) = first + 1 + i by omega] at hsucc
    rw [Nat.add_zero, List.getElem_cons_zero] at hc
    rw [List.length_cons, Score.added_succ]
    simp only [List.map_cons, List.sum_cons]
    exact ⟨by linarith [hc.1, hrest.1], by linarith [hc.2, hrest.2]⟩

/-- Whether every check of some stages writes within its range, if it writes. -/
def WithinBounds (bounds : κ → Bounds ℚ) (points : Nat → Option ℚ)
    (placed : List (PlacedStage κ ℚ)) : Prop :=
  ∀ stage ∈ placed, ∀ i (hi : i < stage.stage.checks.length),
    (bounds stage.stage.checks[i]).Admits (points (stage.firstSlot + i))

instance (placed : List (PlacedStage κ ℚ)) : Decidable (WithinBounds bounds points placed) :=
  inferInstanceAs (Decidable (∀ stage ∈ placed, ∀ i (_ : i < stage.stage.checks.length), _))

/-- Stages that are laid out from the slot `k` on add to the total what lies in their range. -/
theorem totalBelow_place {stages : List (Stage κ)} {k : Nat}
    (h : WithinBounds bounds points (place bounds k stages).1) :
    Score.totalBelow points k + (place bounds k stages).2.low ≤
        Score.totalBelow points (k + slotCount stages) ∧
      Score.totalBelow points (k + slotCount stages) ≤
        Score.totalBelow points k + (place bounds k stages).2.high := by
  induction stages generalizing k with
  | nil => simp [place, slotCount]
  | cons s rest ih =>
    have hrest := ih (k := k + s.checks.length) fun stage hstage =>
      h stage (List.mem_cons_of_mem _ hstage)
    have hown := added_mem_sumBounds s.checks k (h _ (List.mem_cons_self ..))
    rw [Score.totalBelow_add points k] at hrest
    rw [slotCount_cons, ← Nat.add_assoc]
    simp only [place, Bounds.add]
    exact ⟨by linarith [hown.1, hrest.1], by linarith [hown.2, hrest.2]⟩

end Stage

/-! ### Leaving out stages -/

/-- The verdicts on the ends of a range bracket those on all totals within it. -/
theorem PlacedStage.ofTotal_of_fixedVerdict? {stage : PlacedStage κ ℚ} {t : Thresholds ℚ}
    {current final : ℚ}
    {v : Verdict} (h : stage.fixedVerdict? t current = some v)
    (hlow : current + stage.later.low ≤ final)
    (hhigh : final ≤ current + stage.later.high) : Verdict.ofTotal t final = v := by
  simp only [fixedVerdict?, Option.ite_none_right_eq_some, Option.some.injEq] at h
  obtain ⟨hends, rfl⟩ := h
  have h1 := Verdict.severity_ofTotal_mono (t := t) le_trans hlow
  have h2 := Verdict.severity_ofTotal_mono (t := t) le_trans hhigh
  rw [← hends] at h2
  exact Verdict.severity_injective (Nat.le_antisymm h2 h1)

namespace Decision

variable {bounds : κ → Bounds ℚ} {t : Thresholds ℚ} {o : Outcomes κ ℚ}

/-- A loop that may leave out stages ends well where no stage has a fault, decides as the final
total does, and evaluates no more stages than there are. -/
theorem run_place_shortCircuit {stages : List (Stage κ)} {size k : Nat} (stagesRun : Nat)
    (hfit : k + Stage.slotCount stages ≤ size)
    (hfaults : ∀ stage ∈ (Stage.place bounds k stages).1, o.fault? stage = none)
    (h : Stage.WithinBounds bounds o.points (Stage.place bounds k stages).1) :
    ∃ d score, run t true (PlacedStage.evaluate o) stagesRun (Score.totalBelow o.points k)
        (Stage.place bounds k stages).1 (.filled o.points size k) = .ok (d, score) ∧
      d.verdict = .ofTotal t (Score.totalBelow o.points (k + Stage.slotCount stages)) ∧
      d.stagesRun ≤ stagesRun + stages.length := by
  induction stages generalizing k stagesRun with
  | nil => exact ⟨_, _, rfl, rfl, Nat.le_refl _⟩
  | cons s rest ih =>
    rw [Stage.slotCount_cons, ← Nat.add_assoc] at hfit ⊢
    rw [List.length_cons]
    rw [Stage.place] at h hfaults ⊢
    set first : PlacedStage κ ℚ :=
      ⟨s, k, Stage.sumBounds bounds s.checks, (Stage.place bounds (k + s.checks.length) rest).2⟩
    have hrest : Stage.WithinBounds bounds o.points
      (Stage.place bounds (k + s.checks.length) rest).1 :=
      fun stage hstage => h stage (List.mem_cons_of_mem _ hstage)
    rw [run_evaluate_cons (hfaults first (List.mem_cons_self ..))
      (Nat.le_trans (Nat.le_add_right _ _) hfit), if_pos rfl]
    cases hfixed : first.fixedVerdict? t (Score.totalBelow o.points first.stop) with
    | some v =>
      -- The later stages are left out: whatever they write, the final total stays in range.
      obtain ⟨hlow, hhigh⟩ := Stage.totalBelow_place hrest
      refine ⟨_, _, rfl, ?_, ?_⟩
      · exact (PlacedStage.ofTotal_of_fixedVerdict? hfixed hlow hhigh).symm
      · show stagesRun + 1 ≤ stagesRun + (rest.length + 1)
        omega
    | none =>
      obtain ⟨d, score, hrun, hverdict, hcount⟩ := ih (stagesRun + 1) hfit
        (fun stage hstage => hfaults stage (List.mem_cons_of_mem _ hstage)) hrest
      exact ⟨d, score, hrun, hverdict, by omega⟩

/-- **Leaving out stages does not change a verdict.**  Whatever the checks of a request come to,
each within its range: if the decision that evaluates every stage ends well, so does the one that
may leave out stages, with the same verdict and after no more stages. -/
theorem ofOutcomes_shortCircuit (bounds : κ → Bounds ℚ) (t : Thresholds ℚ) (o : Outcomes κ ℚ)
    (stages : List (Stage κ)) (h : Stage.WithinBounds bounds o.points (Stage.layout bounds stages))
    {d : Decision ℚ} (hfull : ofOutcomes t false o (Stage.layout bounds stages) = .ok d) :
    ∃ d', ofOutcomes t true o (Stage.layout bounds stages) = .ok d' ∧ d'.verdict = d.verdict ∧
      d'.stagesRun ≤ d.stagesRun := by
  have hfit : 0 + Stage.slotCount stages ≤ Stage.slotCount stages := by omega
  rw [ofOutcomes_layout] at hfull ⊢
  cases hrun : run t false (PlacedStage.evaluate o) 0 (Score.totalBelow o.points 0)
      (Stage.place bounds 0 stages).1 (.filled o.points (Stage.slotCount stages) 0) with
  | error f =>
    rw [hrun] at hfull
    cases hfull
  | ok last =>
    rw [hrun] at hfull
    obtain rfl : last.1 = d := Except.ok.inj hfull
    obtain ⟨hfaults, hd⟩ := of_run_place hfit hrun
    obtain ⟨d', score', hrun', hverdict, hcount⟩ :=
      run_place_shortCircuit (t := t) 0 hfit hfaults h
    rw [hd, hrun']
    exact ⟨d', rfl, hverdict, hcount⟩

/-- Three stages, one of them empty: the first ends with a total that is exactly the delay
threshold, one of its checks having written a negative weight, and fixes the verdict. -/
theorem ofOutcomes_shortCircuit_on_threshold :
    let stages : List (Stage (Bounds ℚ)) := [⟨[], [⟨-1, 0⟩, ⟨0, 3⟩]⟩, ⟨[], []⟩, ⟨[], [⟨0, 2⟩]⟩]
    let points : Nat → Option ℚ := fun slot => [some (-1), some 3, none].getD slot none
    Stage.WithinBounds id points (Stage.layout id stages) ∧
      ofOutcomes ⟨2, 5⟩ false ⟨points, fun _ => none⟩ (Stage.layout id stages) =
        .ok ⟨.delay, 2, 3⟩ ∧
      ∃ d', ofOutcomes ⟨2, 5⟩ true ⟨points, fun _ => none⟩ (Stage.layout id stages) = .ok d' ∧
        d'.verdict = .delay ∧ d'.stagesRun ≤ 3 := by
  intro stages points
  have hwithin : Stage.WithinBounds id points (Stage.layout id stages) := by
    decide +kernel
  have hfull : ofOutcomes ⟨2, 5⟩ false ⟨points, fun _ => none⟩ (Stage.layout id stages) =
      .ok ⟨.delay, 2, 3⟩ := by
    decide +kernel
  exact ⟨hwithin, hfull, ofOutcomes_shortCircuit id ⟨2, 5⟩
    ⟨points, fun _ => none⟩ stages hwithin hfull⟩

end Decision

end MailPolicy
