import ResponsiveLayout.Error
import ResponsiveLayout.Geometry
import ResponsiveLayout.Grid.Tracks

/-!
What containers need of the toolkit that owns the widgets. A host answers calls and may change its
state with each; it may refuse any call about a widget.
-/

namespace ResponsiveLayout

structure Cell where
  row : UInt32
  col : UInt16
  rowSpan : UInt16
  colSpan : UInt16
deriving DecidableEq

inductive Placement (α : Type) where
  | frame (r : Rect α)
  | cell (c : Cell)
deriving DecidableEq

inductive Restack where
  | raise
  | lower
deriving DecidableEq

/-- A host with state `σ`. One that does not care about stacking or grids leaves these calls out:
restacking then always succeeds. -/
structure Host (α σ : Type) where
  measure : Widget → StateM σ (Except HostError (Size α))
  place : Widget → Placement α → StateM σ (Except HostError Unit)
  restack : Widget → Restack → StateM σ (Except HostError Unit) := fun _ _ => pure (.ok ())
  configureGrid : Tracks α → StateM σ Unit := fun _ => pure ()

def Host.bare {α σ : Type} (h : Host α σ) : Host α σ := { measure := h.measure, place := h.place }

/-- Make a call about each element in turn. Returns the elements whose call succeeded, with the
answers, and the elements whose call was refused. -/
def attempt {σ ε β γ : Type} (call : β → StateM σ (Except ε γ)) :
    List β → StateM σ (List (β × γ) × List β)
  | [] => pure ([], [])
  | b :: bs => do
    let answer ← call b
    let (done, refused) ← attempt call bs
    match answer with
    | .ok c => pure ((b, c) :: done, refused)
    | .error _ => pure (done, b :: refused)

end ResponsiveLayout
