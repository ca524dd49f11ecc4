import ResponsiveLayout.Host.Basic

/-!
A host without a screen. It answers from a table of sizes, refuses calls about destroyed widgets,
records what it is told, and keeps the stacking order.
-/

namespace ResponsiveLayout

inductive Command (α : Type) where
  | place (w : Widget) (p : Placement α)
  | restack (w : Widget) (m : Restack)
deriving DecidableEq

/-- The state of a recording host. The latest size of a widget comes first in `sizes`; commands
are listed oldest first and `stacking` runs from bottom to top. -/
structure Recorder (α : Type) where
  sizes : List (Widget × Size α)
  destroyed : List Widget
  commands : List (Command α)
  stacking : List Widget
  tracks : Option (Tracks α)
deriving DecidableEq

namespace Recorder

variable {α : Type}

def empty : Recorder α := ⟨[], [], [], [], none⟩

def setSize (r : Recorder α) (w : Widget) (s : Size α) : Recorder α :=
  { r with sizes := (w, s) :: r.sizes }

def destroy (r : Recorder α) (w : Widget) : Recorder α :=
  { r with destroyed := w :: r.destroyed, stacking := r.stacking.filter (· ≠ w) }

def isDestroyed (r : Recorder α) (w : Widget) : Bool := r.destroyed.contains w

def clearCommands (r : Recorder α) : Recorder α := { r with commands := [] }

def placementsOf (r : Recorder α) (w : Widget) : List (Placement α) :=
  r.commands.filterMap fun
    | .place w' p => if w' = w then some p else none
    | .restack _ _ => none

def lastPlacement? (r : Recorder α) (w : Widget) : Option (Placement α) :=
  (r.placementsOf w).getLast?

/-- The frame of a widget, if it was last placed in one. -/
def frame? (r : Recorder α) (w : Widget) : Option (Rect α) :=
  match r.lastPlacement? w with
  | some (.frame f) => some f
  | _ => none

def cell? (r : Recorder α) (w : Widget) : Option Cell :=
  match r.lastPlacement? w with
  | some (.cell c) => some c
  | _ => none

def moveTo (m : Restack) (w : Widget) (order : List Widget) : List Widget :=
  match m with
  | .raise => order.filter (· ≠ w) ++ [w]
  | .lower => w :: order.filter (· ≠ w)

/-- The preferred size of a widget that is alive, without extent if none was set. -/
def measure [Scalar α] (w : Widget) (r : Recorder α) : Except HostError (Size α) :=
  if r.isDestroyed w then .error (.destroyed w) else .ok ((r.sizes.lookup w).getD .zero)

def place (w : Widget) (p : Placement α) (r : Recorder α) : Recorder α :=
  { r with commands := r.commands ++ [.place w p] }

def restack (w : Widget) (m : Restack) (r : Recorder α) : Recorder α :=
  { r with commands := r.commands ++ [.restack w m], stacking := moveTo m w r.stacking }

def ifAlive (w : Widget) (f : Recorder α → Recorder α) : StateM (Recorder α) (Except HostError Unit) :=
  fun r => if r.isDestroyed w then (.error (.destroyed w), r) else (.ok (), f r)

def host [Scalar α] : Host α (Recorder α) where
  measure w r := (r.measure w, r)
  place w p := ifAlive w (place w p)
  restack w m := ifAlive w (restack w m)
  configureGrid t r := ((), { r with tracks := some t })

end Recorder

end ResponsiveLayout
