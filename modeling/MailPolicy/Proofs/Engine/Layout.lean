/-
Where the checks stand among the slots, and what the later stages can add.

Stages are placed in two passes: one numbers the slots and goes forwards, the other sums up the ranges and
goes backwards.  Both agree on where a stage ends, whatever its size: the checks of all stages are numbered
through, and what is left to add after a stage is what the checks from there on can add, no more and no less.
A decision relies on the numbers: it never writes a slot twice, and never one that its score does not have.

* `PlacedStage.seats` — the checks of a stage with their slots;
* `PlacedStage.finalize_eq` — two passes in place come to the same as placing the stages at once;
* `Stage.seats_place`, `Stage.later_place` — what one stage after the other adds to the slots and the ranges;
* `Call.Seated`, `Traffic.Reachable.seated` — the slots of a decision;
* `PlacedStage.finalize_exact` — **stages are laid out without a gap, and again in the same way**.
-/
import Mathlib.Algebra.BigOperators.Group.List.Basic
import Mathlib.Algebra.Order.Ring.Rat
import MailPolicy.Proofs.Engine.Building
import MailPolicy.Proofs.Engine.Traffic

namespace MailPolicy

variable {κ α : Type}

/-- The sum of ranges. -/
def Bounds.sum [Zero α] [Add α] (ranges : List (Bounds α)) : Bounds α :=
  ⟨(ranges.map (·.low)).sum, (ranges.map (·.high)).sum⟩

/-- The sum of the ranges of the checks that have slots from `stop` on. -/
def Bounds.sumFrom [Zero α] [Add α] (bounds : κ → Bounds α) (stop : Nat) (seats : List (κ × Nat)) :
    Bounds α :=
  .sum ((seats.filter fun x => stop ≤ x.2).map fun x => bounds x.1)

/-! ### Slots -/

/-- The checks of a stage with their slots, from the first one on. -/
def PlacedStage.seats (s : PlacedStage κ α) : List (κ × Nat) := s.stage.checks.zipIdx s.firstSlot

theorem PlacedStage.map_snd_seats (placed : List (PlacedStage κ α)) :
    (placed.flatMap seats).map Prod.snd = placed.flatMap slots := by
  rw [List.map_flatMap]
  exact List.flatMap_congr fun s _ => List.zipIdx_map_snd s.firstSlot s.stage.checks

namespace Stage

variable [Zero α] [Add α] {bounds : κ → Bounds α}

/-- The checks of stages are numbered through from the slot on from which the stages are placed. -/
theorem seats_place (bounds : κ → Bounds α) (k : Nat) (stages : List (Stage κ)) :
    (place bounds k stages).1.flatMap PlacedStage.seats = (stages.flatMap (·.checks)).zipIdx k := by
  induction stages generalizing k with
  | nil => rfl
  | cons s rest ih =>
    rw [place, List.flatMap_cons, ih, List.flatMap_cons, List.zipIdx_append]
    rfl

theorem le_firstSlot_of_mem_place {k : Nat} {stages : List (Stage κ)} {s : PlacedStage κ α}
    (hs : s ∈ (place bounds k stages).1) : k ≤ s.firstSlot := by
  obtain ⟨n, hn⟩ := List.getElem?_of_mem hs
  rw [Engine.place_getElem? bounds stages k n hn]
  exact Nat.le_add_right _ _

end Stage

/-! ### Two passes -/

namespace PlacedStage

variable [Zero α] [Add α] {bounds : κ → Bounds α} {stages : List (PlacedStage κ α)}

theorem number_snd (bounds : κ → Bounds α) (k : Nat) (stages : List (PlacedStage κ α)) :
    (number bounds k stages).2 = k + Stage.slotCount (stages.map (·.stage)) := by
  induction stages generalizing k with
  | nil => rfl
  | cons s rest ih =>
    rw [number, ih, List.map_cons, Stage.slotCount_cons, Nat.add_assoc]

/-- What stood in the stages before does not matter: both passes together place the stages. -/
theorem sumLater_number (bounds : κ → Bounds α) (k : Nat) (stages : List (PlacedStage κ α)) :
    sumLater (number bounds k stages).1 = Stage.place bounds k (stages.map (·.stage)) := by
  induction stages generalizing k with
  | nil => rfl
  | cons s rest ih =>
    rw [number, sumLater, ih, List.map_cons, Stage.place]

/-- **Two passes in place come to the same as placing the stages at once.** -/
theorem finalize_eq (bounds : κ → Bounds α) (stages : List (PlacedStage κ α)) :
    finalize bounds stages =
      (Stage.layout bounds (stages.map (·.stage)), Stage.slotCount (stages.map (·.stage))) := by
  show ((sumLater (number bounds 0 stages).1).1, (number bounds 0 stages).2) = _
  rw [sumLater_number, number_snd, Nat.zero_add, Stage.layout]

/-- Whether stages are placed, with `count` slots: every check has the slot of its number among all, and
placing the stages again leaves them where they are. -/
structure Finalized (bounds : κ → Bounds α) (stages placed : List (PlacedStage κ α)) (count : Nat) :
    Prop where
  stage_eq : placed.map (·.stage) = stages.map (·.stage)
  seats_eq : placed.flatMap seats = (stages.flatMap (·.stage.checks)).zipIdx
  slots_eq : placed.flatMap slots = List.range count
  again : finalize bounds placed = (placed, count)

theorem finalized_finalize (bounds : κ → Bounds α) (stages : List (PlacedStage κ α)) :
    Finalized bounds stages (finalize bounds stages).1 (finalize bounds stages).2 := by
  have hseats : (Stage.layout bounds (stages.map (·.stage))).flatMap seats =
      (stages.flatMap (·.stage.checks)).zipIdx := by
    rw [Stage.layout, Stage.seats_place, List.flatMap_map]
  rw [finalize_eq]
  refine ⟨Stage.map_stage_place bounds 0 _, hseats, ?_, ?_⟩
  · rw [← map_snd_seats, hseats, List.zipIdx_map_snd, Stage.slotCount, List.flatMap_map,
      List.range_eq_range']
  · -- Where stages are placed does not depend on where they were.
    have hsame : (Stage.layout bounds (stages.map (·.stage))).map (·.stage) = stages.map (·.stage) :=
      Stage.map_stage_place bounds 0 _
    rw [finalize_eq, hsame]

end PlacedStage

/-! ### Ranges -/

section Exact

variable [AddCommMonoid α] {bounds : κ → Bounds α}

/-- The ranges behind are summed up first. -/
theorem Bounds.sum_append (a b : List (Bounds α)) :
    Bounds.sum (a ++ b) = (Bounds.sum b).add (Bounds.sum a) := by
  simp only [Bounds.sum, Bounds.add, List.map_append, List.sum_append, add_comm]

theorem Stage.sumBounds_eq (bounds : κ → Bounds α) (checks : List κ) :
    sumBounds bounds checks = Bounds.sum (checks.map bounds) := by
  simp only [sumBounds, ← List.sum_eq_foldl, Bounds.sum, List.map_map]
  rfl

/-- All stages together can add what all checks can. -/
theorem Stage.place_snd (bounds : κ → Bounds α) (k : Nat) (stages : List (Stage κ)) :
    (place bounds k stages).2 = Bounds.sum ((stages.flatMap (·.checks)).map bounds) := by
  induction stages generalizing k with
  | nil => rfl
  | cons s rest ih =>
    show (place bounds (k + s.checks.length) rest).2.add (sumBounds bounds s.checks) = _
    rw [ih, sumBounds_eq, List.flatMap_cons, List.map_append, Bounds.sum_append]

/-- Checks before the slot do not count. -/
theorem Bounds.sumFrom_append {k stop : Nat} {checks : List κ} (h : k + checks.length ≤ stop)
    (seats : List (κ × Nat)) :
    sumFrom bounds stop (checks.zipIdx k ++ seats) = sumFrom bounds stop seats := by
  have hnone : (checks.zipIdx k).filter (fun x => stop ≤ x.2) = [] := by
    refine List.filter_eq_nil_iff.mpr fun x hx => ?_
    have hlt := List.snd_lt_add_of_mem_zipIdx hx
    simpa using Nat.lt_of_lt_of_le hlt h
  rw [sumFrom, List.filter_append, hnone, List.nil_append, sumFrom]

/-- Checks from the slot on count all. -/
theorem Bounds.sumFrom_zipIdx (bounds : κ → Bounds α) (k : Nat) (checks : List κ) :
    sumFrom bounds k (checks.zipIdx k) = .sum (checks.map bounds) := by
  have hall : (checks.zipIdx k).filter (fun x => k ≤ x.2) = checks.zipIdx k :=
    List.filter_eq_self.mpr fun x hx => by simpa using List.le_snd_of_mem_zipIdx hx
  have hchecks : (checks.zipIdx k).map (fun x => bounds x.1) = checks.map bounds := by
    rw [← Function.comp_def bounds Prod.fst, ← List.map_map, List.zipIdx_map_fst]
  rw [sumFrom, hall, hchecks]

/-- **What is left to add after a stage** is what the checks can add whose slots come after it. -/
theorem Stage.later_place {k : Nat} {stages : List (Stage κ)} {s : PlacedStage κ α}
    (hs : s ∈ (place bounds k stages).1) :
    s.later = .sumFrom bounds s.stop ((place bounds k stages).1.flatMap PlacedStage.seats) := by
  rw [seats_place]
  induction stages generalizing k with
  | nil => cases hs
  | cons first rest ih =>
    rw [place] at hs
    rw [List.flatMap_cons, List.zipIdx_append]
    rcases List.mem_cons.mp hs with rfl | hs
    · have hself : Bounds.sumFrom bounds (k + first.checks.length) (first.checks.zipIdx k ++
          (rest.flatMap (·.checks)).zipIdx (k + first.checks.length)) =
            .sum ((rest.flatMap (·.checks)).map bounds) := by
        rw [Bounds.sumFrom_append (Nat.le_refl _), Bounds.sumFrom_zipIdx]
      exact (place_snd bounds _ rest).trans hself.symm
    · -- A later stage begins where the first one ends, or after that.
      have hstop : k + first.checks.length ≤ s.stop :=
        Nat.le_trans (le_firstSlot_of_mem_place hs) (Nat.le_add_right _ _)
      rw [Bounds.sumFrom_append hstop]
      exact ih hs

end Exact

/-! ### The slots of a decision -/

theorem Score.slot?_filled {points : Nat → Option α} {size slot : Nat} (h : slot < size) :
    (filled points size size).slot? slot = some (points slot) := by
  rw [filled, slot?, List.getElem?_map, List.getElem?_range h, Option.map_some, if_pos h]

namespace Traffic

variable {e : Engine} {t t' : Traffic} {request : Nat} {c : Call}

/-- Whether every call has evaluated the checks in the order of their slots, none twice. -/
def InOrder (t : Traffic) : Prop := ∀ c ∈ t.calls, ∃ k, c.evaluated = List.range k

theorem InOrder.set (h : t.InOrder) (hcalls : t'.calls = t.calls.set request c)
    (hc : ∃ k, c.evaluated = List.range k) : t'.InOrder := by
  intro d hd
  rw [hcalls] at hd
  rcases List.mem_or_eq_of_mem_set hd with hold | rfl
  · exact h d hold
  · exact hc

/-- A call that evaluates a check goes on by one slot. -/
theorem Invariant.range_succ {stage : PlacedStage Check Float} {offset : Nat}
    {next : Float → Plan Check Float (Decision Float)} (h : t.Invariant e)
    (hc : t.calls[request]? = some c) (hphase : c.phase = .evaluating stage offset next) :
    ∃ k, c.evaluated ++ [stage.firstSlot + offset] = List.range k := by
  obtain ⟨n, -, -, hrange⟩ := (h.sound request c hc).stands_of hphase
  exact ⟨stage.firstSlot + offset + 1, by rw [hrange, List.range_succ]⟩

theorem InOrder.step (hinv : t.Invariant e) (h : t.InOrder) (hs : Step e t t') : t'.InOrder := by
  cases hs with
  | begin r =>
    intro c hc
    rcases List.mem_append.mp hc with hold | hnew
    · exact h c hold
    · rw [List.mem_singleton.mp hnew]
      exact ⟨0, rfl⟩
  -- Only these two evaluate a check; whatever else happens leaves the slots of a call as they are.
  | answer hc hphase | lock hc hphase => exact h.set rfl (hinv.range_succ hc hphase)
  | queue hc | refuse hc | giveBack hc | enter _ hc | proceed hc | find _ _ hc | collapse _ hc =>
    have hold := h _ (List.mem_of_getElem? hc)
    exact h.set rfl hold
  | attend | work | release | outside => exact h

theorem Reachable.inOrder (hnum : e.Numbered) (h : Reachable e t) : t.InOrder := by
  obtain ⟨memories, now, pools, hosted, hl⟩ := h
  induction hl with
  | refl => exact fun c hc => absurd hc List.not_mem_nil
  | step hl hs ih => exact ih.step (Reachable.invariant hnum ⟨_, _, _, _, hl⟩) hs

end Traffic

/-- Whether a call and its score have `count` slots, the checks of the call come one after the other from the
first slot on, and what a check has come to stands in its slot. -/
structure Call.Seated (e : Engine) (count : Nat) (b : Board Float) (c : Call) : Prop where
  size_eq : b.score.size = count
  evaluated_eq : ∃ k ≤ count, c.evaluated = List.range k
  slot?_eq : ∀ slot points, c.ended slot = some points → b.score.slot? slot = some points ∧
    ∃ check, e.checks[slot]? = some check ∧ check.ComesTo slot c.attributes points

/-- **A decision writes each slot for one check, and none that is not there.** -/
theorem Traffic.Reachable.seated {e : Engine} {t : Traffic} {request : Nat} {c : Call}
    (hnum : e.Numbered) (h : Reachable e t) (hc : t.calls[request]? = some c) :
    c.Seated e e.slots (t.bench.board request) := by
  have hsound := (h.invariant hnum).sound request c hc
  obtain ⟨k, hk⟩ := h.inOrder hnum c (List.mem_of_getElem? hc)
  refine ⟨?_, ⟨k, ?_, hk⟩, fun slot points hended => ⟨?_, hsound.comesTo slot points hended⟩⟩
  · rw [hsound.score_eq, Score.size, Score.filled, List.length_map, List.length_range]
  · -- Any further slot would come after the one behind the last, which no call evaluates.
    by_contra hlt
    have hmem : e.slots ∈ c.evaluated := by
      rw [hk, List.mem_range]
      exact Nat.lt_of_not_le hlt
    exact Nat.lt_irrefl _ (hsound.lt_slots _ hmem)
  · have hslot : slot < e.slots :=
      hsound.lt_slots slot (hsound.mem_of_ended slot (by rw [hended]; rfl))
    rw [hsound.score_eq, Score.slot?_filled hslot, Call.points, hended, Option.join_some]

/-! ### Stages laid out -/

/-- The stages of an engine that was built are placed, and its scores have as many slots as they take. -/
theorem Engine.finalize_stages_of_build {config : Config} {now : Nat} {files : Files} {e : Engine}
    {s : EngineState} (h : build config now files = .ok (e, s)) :
    PlacedStage.finalize Check.bounds e.stages = (e.stages, e.slots) := by
  obtain ⟨d, -, hstages, -⟩ := build_spec h
  have hsame : e.stages.map (·.stage) = d.stages := by
    rw [hstages]
    exact Stage.map_stage_place Check.bounds 0 d.stages
  rw [PlacedStage.finalize_eq, hsame, ← hstages, slots, hsame]

/-- **Stages are laid out without a gap, and again in the same way.**  Whatever stood in them before, every
check gets the slot of its number among all checks, and as many slots are told as there are checks; placing
the stages a second time changes nothing.  In exact arithmetic the range of what is left to add after a stage
is the sum of the ranges of those checks whose slots are at or after its end.  And whatever has come about by
the calls and workers of an engine with such stages, a call has evaluated its checks in the order of their
slots, none twice and none beyond its score, and its score holds what each of them came to. -/
theorem PlacedStage.finalize_exact :
    (∀ {κ α : Type} [Zero α] [Add α] (bounds : κ → Bounds α) (stages : List (PlacedStage κ α)),
      Finalized bounds stages (finalize bounds stages).1 (finalize bounds stages).2) ∧
    (∀ {κ α : Type} [AddCommMonoid α] (bounds : κ → Bounds α) (stages : List (PlacedStage κ α)),
      ∀ s ∈ (finalize bounds stages).1,
        s.later = .sumFrom bounds s.stop ((finalize bounds stages).1.flatMap seats)) ∧
    ∀ (e : Engine) (built : List (PlacedStage Check Float)) (t : Traffic) (request : Nat) (c : Call),
      e.stages = (finalize Check.bounds built).1 → Traffic.Reachable e t →
      t.calls[request]? = some c →
      c.Seated e (finalize Check.bounds built).2 (t.bench.board request) := by
  refine ⟨fun bounds stages => finalized_finalize bounds stages, fun bounds stages s hs => ?_, ?_⟩
  · rw [finalize_eq] at hs ⊢
    exact Stage.later_place hs
  · intro e built t request c hstages ht hc
    rw [finalize_eq] at hstages ⊢
    have hslots : e.slots = Stage.slotCount (built.map (·.stage)) := by
      rw [Engine.slots, hstages, Stage.layout, Stage.map_stage_place]
    exact hslots ▸ ht.seated (Engine.numbered_of_layout hstages) hc

namespace PlacedStage

/-- Three stages of ranges, one of them without checks, that were placed in some other way before. -/
def threeStages : List (PlacedStage (Bounds ℚ) ℚ) :=
  [⟨⟨"one".toList, [⟨0, 5⟩, ⟨-1, 2⟩]⟩, 7, ⟨1, 1⟩, ⟨0, 0⟩⟩, ⟨⟨"two".toList, []⟩, 7, ⟨0, 0⟩, ⟨0, 0⟩⟩,
    ⟨⟨"three".toList, [⟨-2, 1⟩, ⟨0, 1 / 2⟩]⟩, 0, ⟨0, 0⟩, ⟨-1, 1⟩⟩]

/-- Two stages with one list of values each. -/
def twoLists : List (PlacedStage Check Float) :=
  [⟨⟨"stage1".toList, [.valueList
      { name := "friends".toList, field := .clientName, caseSensitive := true,
        values := ["a".toList], weights := ⟨-1, none⟩ }]⟩, 0, ⟨0, 0⟩, ⟨0, 0⟩⟩,
    ⟨⟨"stage2".toList, [.valueList
      { name := "foes".toList, field := .clientName, caseSensitive := true,
        values := ["b".toList], weights := ⟨4, none⟩ }]⟩, 0, ⟨0, 0⟩, ⟨0, 0⟩⟩]

/-- An engine with these stages. -/
def twoListsEngine : Engine where
  stages := (finalize Check.bounds twoLists).1
  policy := { shortCircuit := false }
  responses := {}

/-- What is left to add after the first of three stages, and a request in the second stage of an engine. -/
theorem finalize_exact_three :
    Finalized id threeStages (finalize id threeStages).1 4 ∧
    (∃ s ∈ (finalize id threeStages).1, s.stop = 2 ∧ s.later = ⟨-2, 3 / 2⟩ ∧
      s.later = .sumFrom id s.stop ((finalize id threeStages).1.flatMap seats)) ∧
    ∃ (t : Traffic) (c : Call), Traffic.Reachable twoListsEngine t ∧ t.calls[0]? = some c ∧
      c.evaluated = [0, 1] ∧ c.ended 0 = some (some (-1)) ∧ c.ended 1 = some none ∧
      c.Seated twoListsEngine 2 (t.bench.board 0) := by
  obtain ⟨hplaced, hlater, hseated⟩ := finalize_exact
  refine ⟨hplaced id threeStages, ?_, ?_⟩
  · exact ⟨_, List.mem_cons_self, by decide +kernel, by decide +kernel,
      hlater id threeStages _ List.mem_cons_self⟩
  · let r : Request := .ofList [("client_name".toList, "a".toList)]
    let start := Traffic.start twoListsEngine [] 0 (fun _ => {}) true
    have hbegin : Traffic.Leads twoListsEngine start _ := .step .refl (.begin r)
    have hfirst : Traffic.Leads twoListsEngine _ _ :=
      .step hbegin (@Traffic.Step.answer _ _ 0 0 _ _ _ _ _ rfl rfl rfl rfl)
    have henter : Traffic.Leads twoListsEngine _ _ :=
      .step hfirst (@Traffic.Step.enter _ _ 0 0 1 _ _ _ _ rfl rfl rfl rfl)
    have hread : Traffic.Leads twoListsEngine _ _ :=
      .step henter (@Traffic.Step.attend _ _ 0 (.read 0) _ rfl rfl)
    have hproceed : Traffic.Leads twoListsEngine _ _ :=
      .step hread (@Traffic.Step.proceed _ _ 0 0 _ _ _ _ rfl rfl rfl)
    have hsecond : Traffic.Leads twoListsEngine _ _ :=
      .step hproceed (@Traffic.Step.answer _ _ 0 0 _ _ _ _ _ rfl rfl rfl rfl)
    have hreachable : Traffic.Reachable twoListsEngine _ := ⟨[], 0, fun _ => {}, true, hsecond⟩
    exact ⟨_, _, hreachable, rfl, rfl, rfl, rfl, hseated _ twoLists _ 0 _ rfl hreachable rfl⟩

end PlacedStage
end MailPolicy
