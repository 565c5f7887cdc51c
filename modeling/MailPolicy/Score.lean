/-
Scores: one slot for each check of a request.

A slot is neutral until its check writes a value.  The total adds the values in slot order, so it does not
depend on the order in which they were written.

* `Score.update` writes a slot, and does nothing to a slot that is not there;
* `Score.slot?_update_self`, `Score.slot?_update_of_ne`: what a write does to the slots;
* `Score.total` adds up.
-/
namespace MailPolicy

/-- The slots of a request; a neutral slot is `none`. -/
structure Score (α : Type) where
  slots : List (Option α)
deriving DecidableEq, Repr

namespace Score

variable {α : Type}

/-- A score of neutral slots. -/
def blank (count : Nat) : Score α := ⟨List.replicate count none⟩

/-- How many slots there are. -/
def size (s : Score α) : Nat := s.slots.length

/-- Whether there is no slot. -/
def isEmpty (s : Score α) : Bool := s.slots.isEmpty

/-- The score with a value written to a slot. -/
def update (s : Score α) (index : Nat) (points : α) : Score α := ⟨s.slots.set index (some points)⟩

/-- The score with every slot neutral again. -/
def reset (s : Score α) : Score α := blank s.size

/-- What a slot holds, if there is such a slot. -/
def slot? (s : Score α) (index : Nat) : Option (Option α) := s.slots[index]?

/-- The values that were written, in slot order. -/
def values (s : Score α) : List α := s.slots.filterMap id

/-- The sum of the values that were written, in slot order. -/
def total [Zero α] [Add α] (s : Score α) : α := s.values.foldl (· + ·) 0

@[simp] theorem size_blank (count : Nat) : (blank count : Score α).size = count := by
  simp [blank, size]

@[simp] theorem size_update (s : Score α) (index : Nat) (points : α) :
    (s.update index points).size = s.size := by
  simp [update, size]

theorem slot?_update_self {s : Score α} {index : Nat} (h : index < s.size) (points : α) :
    (s.update index points).slot? index = some (some points) := by
  simp only [size] at h
  simp [update, slot?, h]

theorem slot?_update_of_ne (s : Score α) {index other : Nat} (h : index ≠ other) (points : α) :
    (s.update index points).slot? other = s.slot? other := by
  simp [update, slot?, h]

@[simp] theorem values_blank (count : Nat) : (blank count : Score α).values = [] := by
  simp [values, blank]

end Score
end MailPolicy
