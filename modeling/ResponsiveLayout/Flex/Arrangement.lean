import ResponsiveLayout.Alignment

/-!
The start of each item along the main axis, for items whose lengths are known. The six ways to
justify differ only in where the first item starts and in the extra room between neighbours.
-/

namespace ResponsiveLayout

variable {α : Type} [Scalar α]

namespace Justify

/-- The start of the first of `n` items and the extra room between two neighbours, when `free` of
the main axis is not taken. Without room to spare the three spacing modes start at zero. -/
def leadAndSpacing (j : Justify) (free : α) (n : Nat) : α × α :=
  let spread := Scalar.positive free
  match j with
  | start => (0, 0)
  | center => (free / ((2 : Nat) : α), 0)
  | «end» => (free, 0)
  | spaceBetween => if 1 < n then (0, spread / ((n - 1 : Nat) : α)) else (0, 0)
  | spaceAround =>
    let space := spread / (n : α)
    (space / ((2 : Nat) : α), space)
  | spaceEvenly =>
    let space := spread / ((n + 1 : Nat) : α)
    (space, space)

end Justify

def offsetsFrom (gap spacing : α) : α → List α → List α
  | _, [] => []
  | cursor, size :: sizes =>
    cursor :: offsetsFrom gap spacing (cursor + (size + gap + spacing)) sizes

/-- The start of each item in `available` room, gaps between the items not counted in it. -/
def arrange (j : Justify) (sizes : List α) (available gap : α) : List α :=
  let (lead, spacing) := j.leadAndSpacing (available - Scalar.total sizes) sizes.length
  offsetsFrom gap spacing lead sizes

end ResponsiveLayout
