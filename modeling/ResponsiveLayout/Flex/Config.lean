import ResponsiveLayout.Alignment

/-!
The configuration of a row or column.
-/

namespace ResponsiveLayout

structure FlexConfig (α : Type) where
  direction : Direction
  align : Align
  justify : Justify
  gap : α
deriving DecidableEq

namespace FlexConfig

variable {α : Type} [Scalar α]

def row : FlexConfig α := ⟨.row, .start, .start, 0⟩

def column : FlexConfig α := { row with direction := .column }

end FlexConfig

end ResponsiveLayout
