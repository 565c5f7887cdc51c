/-
The order of doubles.

A comparison of doubles is false as soon as one side is no number, so `≤` is not even reflexive.
On numbers it is the order of a rank: first the class (minus infinity, negative, zero, positive,
infinity), then the exponent, then the mantissa, the last two turned round for negative numbers.
The two zeros have one rank.

* `Float.lt_iff_rank_lt`, `Float.le_iff_rank_le` — a comparison is that of the ranks of two
  numbers;
* `Float.isFinite_iff_rank` — the finite numbers are those strictly between the infinities;
* `Float.le_of_not_lt` — between numbers one of the two comparisons holds;
* `Float.beq_of_le_of_le` — numbers that are at most each other are the same.
-/
import Mathlib

/-! ### Ranks -/

namespace Float.Model.UnpackedFloat

/-- The place of a number in the order; what is no number has that of zero. -/
def rank : UnpackedFloat → ℤ ×ₗ ℤ ×ₗ ℤ
  | infinity .negative => toLex (-2, toLex (0, 0))
  | finite .negative mantissa exponent _ => toLex (-1, toLex (-exponent, -(mantissa : ℤ)))
  | notANumber | zero _ => toLex (0, toLex (0, 0))
  | finite .positive mantissa exponent _ => toLex (1, toLex (exponent, (mantissa : ℤ)))
  | infinity .positive => toLex (2, toLex (0, 0))

theorem lt_iff_rank_lt (a b : UnpackedFloat) :
    a.lt b = true ↔ a.isNaN = false ∧ b.isNaN = false ∧ a.rank < b.rank := by
  -- One case for each pair of classes; only two finite numbers of one sign compare further.
  rcases a with (_ | _) | _ | _ | ⟨_ | _, m, e, hm⟩ <;>
    rcases b with (_ | _) | _ | _ | ⟨_ | _, n, f, hn⟩ <;>
    simp [UnpackedFloat.lt, UnpackedFloat.compare, rank, isNaN, Prod.Lex.lt_iff,
      Ordering.swap_eq_lt,
      Ordering.then_eq_lt, Ordering.then_eq_gt, compare_lt_iff_lt, compare_gt_iff_gt]
  rfl

theorem le_iff_rank_le (a b : UnpackedFloat) :
    a.le b = true ↔ a.isNaN = false ∧ b.isNaN = false ∧ a.rank ≤ b.rank := by
  have hle (m n : ℕ) (e f : ℤ) :
      ((Ord.compare e f).then (Ord.compare m n)).isLE = true ↔ e < f ∨ e = f ∧ m ≤ n := by
    rw [Ordering.isLE_iff_ne_gt, Ordering.then_eq_gt, compare_gt_iff_gt, compare_gt_iff_gt,
      compare_eq_iff_eq]
    omega
  have hge (m n : ℕ) (e f : ℤ) :
      ((Ord.compare e f).then (Ord.compare m n)).isGE = true ↔ f < e ∨ e = f ∧ n ≤ m := by
    rw [Ordering.isGE_iff_ne_lt, Ordering.then_eq_lt, compare_lt_iff_lt, compare_lt_iff_lt,
      compare_eq_iff_eq]
    omega
  rcases a with (_ | _) | _ | _ | ⟨_ | _, m, e, hm⟩ <;>
    rcases b with (_ | _) | _ | _ | ⟨_ | _, n, f, hn⟩ <;>
    simp [UnpackedFloat.le, UnpackedFloat.compare, rank, isNaN, Prod.Lex.le_iff, hle, hge]
  all_goals rfl

theorem beq_iff_rank_eq (a b : UnpackedFloat) :
    a.beq b = true ↔ a.isNaN = false ∧ b.isNaN = false ∧ a.rank = b.rank := by
  rcases a with (_ | _) | _ | _ | ⟨_ | _, m, e, hm⟩ <;>
    rcases b with (_ | _) | _ | _ | ⟨_ | _, n, f, hn⟩ <;>
    simp [UnpackedFloat.beq, UnpackedFloat.compare, rank, isNaN, Ordering.swap_eq_eq,
      Ordering.then_eq_eq]
  all_goals rfl

theorem isFinite_iff_rank (a : UnpackedFloat) :
    a.isFinite = true ↔ a.isNaN = false ∧ rank (infinity .negative) < a.rank ∧
      a.rank < rank (infinity .positive) := by
  rcases a with (_ | _) | _ | _ | ⟨_ | _, m, e, hm⟩ <;> simp [isFinite, isNaN, rank,
    Prod.Lex.lt_iff]

end Float.Model.UnpackedFloat

/-! ### Doubles -/

namespace Float

variable {x y z : Float}

/-- The place of a double in the order. -/
def rank (x : Float) : ℤ ×ₗ ℤ ×ₗ ℤ := x.toModel.unpack.rank

theorem lt_iff_rank_lt : x < y ↔ x.isNaN = false ∧ y.isNaN = false ∧ x.rank < y.rank := by
  show x.lt y = true ↔ _
  rw [Float.lt, decide_eq_true_iff]
  exact Model.UnpackedFloat.lt_iff_rank_lt _ _

theorem le_iff_rank_le : x ≤ y ↔ x.isNaN = false ∧ y.isNaN = false ∧ x.rank ≤ y.rank := by
  show x.le y = true ↔ _
  rw [Float.le, decide_eq_true_iff]
  exact Model.UnpackedFloat.le_iff_rank_le _ _

theorem isFinite_iff_rank : x.isFinite = true ↔
    x.isNaN = false ∧ Model.UnpackedFloat.rank (.infinity .negative) < x.rank ∧
      x.rank < Model.UnpackedFloat.rank (.infinity .positive) :=
  Model.UnpackedFloat.isFinite_iff_rank _

theorem isNaN_of_isFinite (h : x.isFinite = true) : x.isNaN = false :=
  (isFinite_iff_rank.mp h).1

theorem le_of_lt (h : x < y) : x ≤ y := by
  obtain ⟨hx, hy, hlt⟩ := lt_iff_rank_lt.mp h
  exact le_iff_rank_le.mpr ⟨hx, hy, hlt.le⟩

theorem le_rfl_of_isNaN (hx : x.isNaN = false) : x ≤ x :=
  le_iff_rank_le.mpr ⟨hx, hx, le_rfl⟩

/-- Of two numbers one is at most the other. -/
theorem le_of_not_lt (hx : x.isNaN = false) (hy : y.isNaN = false) (h : ¬x < y) : y ≤ x := by
  refine le_iff_rank_le.mpr ⟨hy, hx, ?_⟩
  by_contra hlt
  exact h (lt_iff_rank_lt.mpr ⟨hx, hy, not_le.mp hlt⟩)

theorem le_trans (h : x ≤ y) (h' : y ≤ z) : x ≤ z := by
  obtain ⟨hx, -, hxy⟩ := le_iff_rank_le.mp h
  obtain ⟨-, hz, hyz⟩ := le_iff_rank_le.mp h'
  exact le_iff_rank_le.mpr ⟨hx, hz, hxy.trans hyz⟩

/-- Two numbers are the same if neither is the greater; the two zeros are. -/
theorem beq_of_le_of_le (h : x ≤ y) (h' : y ≤ x) : (x == y) = true := by
  obtain ⟨hx, hy, hxy⟩ := le_iff_rank_le.mp h
  obtain ⟨-, -, hyx⟩ := le_iff_rank_le.mp h'
  exact (Model.UnpackedFloat.beq_iff_rank_eq _ _).mpr ⟨hx, hy, hxy.antisymm hyx⟩

/-- What lies between finite numbers is finite. -/
theorem isFinite_of_mem (hx : x.isFinite = true) (hz : z.isFinite = true) (h : x ≤ y) (h' : y ≤ z) :
    y.isFinite = true := by
  obtain ⟨-, hy, hxy⟩ := le_iff_rank_le.mp h
  obtain ⟨-, -, hyz⟩ := le_iff_rank_le.mp h'
  exact isFinite_iff_rank.mpr
    ⟨hy, (isFinite_iff_rank.mp hx).2.1.trans_le hxy, hyz.trans_lt (isFinite_iff_rank.mp hz).2.2⟩

end Float
