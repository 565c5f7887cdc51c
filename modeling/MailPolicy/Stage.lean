/-
Stages: checks that are evaluated together, one stage after the other.

Every check has a slot of the score; the slots are numbered through all stages.  What the later stages can
still add lies in a known range, and where that cannot move the total out of one verdict the stages that
follow make no difference.

* `Stage.add` appends a check unless its name is taken;
* `Stage.layout` numbers the slots and computes the ranges;
* `PlacedStage.finalize` does so in place, the slots in one pass and the ranges in another;
* `PlacedStage.fixedVerdict?` is the verdict that no later stage can change.
-/
import MailPolicy.Bounds
import MailPolicy.Fault
import MailPolicy.Text.Basic
import MailPolicy.Verdict

namespace MailPolicy

/-- A named group of checks. -/
structure Stage (κ : Type) where
  name : Text
  checks : List κ
deriving Repr

/-- Why a check cannot be added to a stage: another has its name. -/
structure DuplicateCheck where
  stage : Text
  check : Text
deriving DecidableEq, Repr

/-- The fault that a taken name is. -/
def DuplicateCheck.fault (e : DuplicateCheck) : Fault :=
  ⟨.config, "stage " ++ String.ofList e.stage ++ ": duplicate check name " ++ String.ofList e.check⟩

/-- A stage with its place among the others. -/
structure PlacedStage (κ α : Type) where
  stage : Stage κ
  /-- The slot of the first check. -/
  firstSlot : Nat
  /-- What the checks of the stage can add together. -/
  bounds : Bounds α
  /-- What all later stages can still add. -/
  later : Bounds α
deriving Repr

/-- The sum of two ranges. -/
def Bounds.add {α : Type} [Add α] (a b : Bounds α) : Bounds α := ⟨a.low + b.low, a.high + b.high⟩

namespace Stage

variable {κ α : Type}

/-- Appends a check; its name must not be taken in the stage. -/
def add (nameOf : κ → Text) (s : Stage κ) (check : κ) : Except DuplicateCheck (Stage κ) :=
  if s.checks.any fun c => nameOf c == nameOf check then .error ⟨s.name, nameOf check⟩
  else .ok { s with checks := s.checks ++ [check] }

/-- The sum of the ranges of some checks. -/
def sumBounds [Zero α] [Add α] (bounds : κ → Bounds α) (checks : List κ) : Bounds α :=
  ⟨(checks.map fun c => (bounds c).low).foldl (· + ·) 0,
    (checks.map fun c => (bounds c).high).foldl (· + ·) 0⟩

/-- Places stages from a given slot on, and sums up what they can add, the last stage first. -/
def place [Zero α] [Add α] (bounds : κ → Bounds α) (slot : Nat) :
    List (Stage κ) → List (PlacedStage κ α) × Bounds α
  | [] => ([], ⟨0, 0⟩)
  | s :: rest =>
    let (placed, later) := place bounds (slot + s.checks.length) rest
    let own := sumBounds bounds s.checks
    ({ stage := s, firstSlot := slot, bounds := own, later := later } :: placed, later.add own)

/-- The stages with their slots and ranges. -/
def layout [Zero α] [Add α] (bounds : κ → Bounds α) (stages : List (Stage κ)) : List (PlacedStage κ α) :=
  (place bounds 0 stages).1

/-- How many slots the checks of all stages take. -/
def slotCount (stages : List (Stage κ)) : Nat := (stages.flatMap fun s => s.checks).length

end Stage

namespace PlacedStage

variable {κ α : Type} [Zero α] [Add α]

/-- Numbers the slots of stages from a given one on, and sums up what each stage can add by itself, the first
stage first; tells the slot after the last. -/
def number (bounds : κ → Bounds α) (slot : Nat) : List (PlacedStage κ α) → List (PlacedStage κ α) × Nat
  | [] => ([], slot)
  | s :: rest =>
    let (numbered, stop) := number bounds (slot + s.stage.checks.length) rest
    ({ s with firstSlot := slot, bounds := Stage.sumBounds bounds s.stage.checks } :: numbered, stop)

/-- Tells every stage what the later ones can add, the last stage first. -/
def sumLater : List (PlacedStage κ α) → List (PlacedStage κ α) × Bounds α
  | [] => ([], ⟨0, 0⟩)
  | s :: rest =>
    let (summed, later) := sumLater rest
    ({ s with later := later } :: summed, later.add s.bounds)

/-- Places stages again, wherever they stood, and tells how many slots they take. -/
def finalize (bounds : κ → Bounds α) (stages : List (PlacedStage κ α)) : List (PlacedStage κ α) × Nat :=
  let (numbered, count) := number bounds 0 stages
  ((sumLater numbered).1, count)

end PlacedStage

/-- The verdict that stands whatever the later stages add, if there is one. -/
def PlacedStage.fixedVerdict? {κ α : Type} [Add α] [LE α] [DecidableLE α] (s : PlacedStage κ α)
    (t : Thresholds α) (current : α) : Option Verdict :=
  let low := Verdict.ofTotal t (current + s.later.low)
  let high := Verdict.ofTotal t (current + s.later.high)
  if low = high then some low else none

end MailPolicy
