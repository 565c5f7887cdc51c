/-
Bounds on the weight that a check can add.

Neutral is always possible, so the range of a set of weights starts as the single point zero and is widened
by each weight in turn.  A weight that compares with nothing widens the range on neither side.

* `Bounds.ofWeights` is the range of a list of weights;
* `HitMiss.pick` is what a check adds that hits or misses.
-/
namespace MailPolicy

/-- A range of weights. -/
structure Bounds (α : Type) where
  low : α
  high : α
deriving DecidableEq, Repr

namespace Bounds

variable {α : Type} [Zero α] [LT α] [DecidableLT α]

/-- The range that holds zero alone. -/
def zero : Bounds α := ⟨0, 0⟩

/-- The range with the weight `w` in it. -/
def widen (b : Bounds α) (w : α) : Bounds α where
  low := if w < b.low then w else b.low
  high := if b.high < w then w else b.high

/-- The range of no weight at all and each of the given ones. -/
def ofWeights (ws : List α) : Bounds α := ws.foldl widen zero

end Bounds

/-- What a check adds on a hit and, if anything, on a miss. -/
structure HitMiss (α : Type) where
  hit : α
  miss : Option α
deriving DecidableEq, Repr

namespace HitMiss

variable {α : Type}

/-- Every weight that is ever added. -/
def weights (w : HitMiss α) : List α := w.hit :: w.miss.toList

/-- The weight for an outcome. -/
def pick (w : HitMiss α) (matched : Bool) : Option α := if matched then some w.hit else w.miss

theorem mem_weights_of_pick {w : HitMiss α} {matched : Bool} {x : α} (h : w.pick matched = some x) :
    x ∈ w.weights := by
  cases matched <;> simp_all [pick, weights]

end HitMiss
end MailPolicy
