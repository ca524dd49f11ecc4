import ResponsiveLayout.Scalar

/-!
Columns of a grid as tracks with integer weights and one gap between neighbours, and the stretch
of the container that a run of tracks covers.
-/

namespace ResponsiveLayout

structure Tracks (α : Type) where
  weights : List UInt16
  gap : α
deriving DecidableEq

namespace Tracks

variable {α : Type}

def uniform (columns : UInt16) (gap : α) : Tracks α := ⟨List.replicate columns.toNat 1, gap⟩

def columns (t : Tracks α) : UInt16 := t.weights.length.toUInt16

def weightOf (ws : List UInt16) : Nat := ws.foldr (fun w n => w.toNat + n) 0

variable [Scalar α]

/-- The length of one unit of weight in a container of a given width; zero if the gaps alone
fill it. -/
def unit (t : Tracks α) (width : α) : α :=
  let gaps := t.gap * ((t.weights.length - 1 : Nat) : α)
  Scalar.positive ((width - gaps) / (weightOf t.weights : α))

/-- Start and length of `span` tracks from the track at `col` on, in a container of a given width.
A run past the last track ends there; a run without tracks or weight is empty at zero. -/
def extent (t : Tracks α) (col span : UInt16) (width : α) : α × α :=
  let first := col.toNat
  if weightOf t.weights = 0 ∨ span = 0 ∨ t.weights.length ≤ first then (0, 0)
  else
    let last := min (first + span.toNat) t.weights.length
    let before := weightOf (t.weights.take first)
    let covered := weightOf ((t.weights.take last).drop first)
    let unit := t.unit width
    ((before : α) * unit + (first : α) * t.gap,
      (covered : α) * unit + ((last - first - 1 : Nat) : α) * t.gap)

end Tracks

end ResponsiveLayout
