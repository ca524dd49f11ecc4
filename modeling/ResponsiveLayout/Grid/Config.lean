import ResponsiveLayout.Grid.Breakpoints

/-!
The configuration of a grid.
-/

namespace ResponsiveLayout

structure GridConfig (α : Type) where
  columns : UInt16
  gap : α
  breakpoints : Breakpoints α
deriving DecidableEq

namespace GridConfig

variable {α : Type}

def standard [Scalar α] : GridConfig α := ⟨12, 0, .standard⟩

def fault? (c : GridConfig α) : Option (LayoutError α) :=
  if c.columns = 0 then some .zeroColumns else none

theorem columns_pos (c : GridConfig α) (hc : c.fault? = none) : 0 < c.columns := by
  unfold fault? at hc
  split at hc
  · exact absurd hc (Option.some_ne_none _)
  · next hzero => exact UInt16.pos_iff_ne_zero.mpr hzero

end GridConfig

end ResponsiveLayout
