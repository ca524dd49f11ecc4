import Mathlib.Algebra.Order.BigOperators.Group.List
import Mathlib.Algebra.Order.Field.Rat
import ResponsiveLayout.Scalar

/-! The rules of exact lengths: with rationals a total is a sum, in whatever order it is added up, and the
positive part is a maximum. -/
namespace ResponsiveLayout.Scalar

theorem total_eq_sum (xs : List Rat) : total xs = xs.sum := by
  rw [total, neg_zero, List.sum_eq_foldl]

theorem positive_eq_max (x : Rat) : positive x = max 0 x := by
  rw [positive]
  split
  · next hpos => exact (max_eq_right hpos.le).symm
  · next hneg => exact (max_eq_left (not_lt.mp hneg)).symm

theorem tolerance_pos : 0 < (tolerance : Rat) := by decide

end ResponsiveLayout.Scalar
