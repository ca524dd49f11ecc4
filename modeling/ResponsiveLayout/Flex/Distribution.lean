import ResponsiveLayout.Scalar

/-!
The lengths of the items along the main axis. Room that the bases leave over goes to the items in
proportion to their grow weights. When the bases need too much, every item gives way in proportion
to its shrink weight times its basis; an item that would fall to zero is fixed there first and the
rest is taken from the others again.
-/

namespace ResponsiveLayout

structure Demand (α : Type) where
  basis : α
  grow : α
  shrink : α
deriving DecidableEq

structure Distribution (α : Type) where
  sizes : List α
  overflow : α
deriving DecidableEq

/-- An item while the row is being shrunk: its present length, how strongly it gives way, and
whether its length is settled. -/
structure Sizing (α : Type) where
  size : α
  weight : α
  settled : Bool
deriving DecidableEq

variable {α : Type} [Scalar α]

namespace Sizing

/-- An item at its basis. One whose weight is not above zero cannot give way. -/
def ofDemand (d : Demand α) : Sizing α where
  size := d.basis
  weight := d.shrink * d.basis
  settled := decide (d.shrink * d.basis ≤ 0)

def openCount (ps : List (Sizing α)) : Nat := ps.countP (!·.settled)

def openWeight (ps : List (Sizing α)) : α :=
  Scalar.total ((ps.filter (!·.settled)).map weight)

def share (excess totalWeight : α) (p : Sizing α) : α := excess * p.weight / totalWeight

/-- Settle at zero, from left to right, each open item whose share is at least its length, and
return the excess that is then left. The shares are those of the excess before. -/
def settle (excess totalWeight : α) : α → List (Sizing α) → List (Sizing α) × α
  | left, [] => ([], left)
  | left, p :: ps =>
    if !p.settled && decide (p.size - share excess totalWeight p ≤ 0) then
      let rest := settle excess totalWeight (left - p.size) ps
      ({ p with size := 0, settled := true } :: rest.1, rest.2)
    else
      let rest := settle excess totalWeight left ps
      (p :: rest.1, rest.2)

def relieve (excess totalWeight : α) (ps : List (Sizing α)) : List (Sizing α) :=
  ps.map fun p => if p.settled then p else { p with size := p.size - share excess totalWeight p }

/-- Take an excess from the open items. Every round either settles an item for good or is the
last one. -/
def shrink (excess : α) (ps : List (Sizing α)) : List (Sizing α) :=
  if Scalar.tolerance < excess then
    let totalWeight := openWeight ps
    if totalWeight ≤ 0 then ps
    else
      let round := settle excess totalWeight excess ps
      if openCount round.1 < openCount ps then shrink round.2 round.1
      else relieve excess totalWeight ps
  else ps
termination_by openCount ps

end Sizing

def growInto (free : α) (ds : List (Demand α)) : List α :=
  let totalGrow := Scalar.total (ds.map Demand.grow)
  if 0 < totalGrow then ds.map fun d => d.basis + free * (d.grow / totalGrow)
  else ds.map Demand.basis

def shrinkBy (excess : α) (ds : List (Demand α)) : List α :=
  (Sizing.shrink excess (ds.map Sizing.ofDemand)).map Sizing.size

/-- The length of each item in `available` room. An overflow within the tolerance counts as
none. -/
def distribute (ds : List (Demand α)) (available : α) : Distribution α :=
  let free := available - Scalar.total (ds.map Demand.basis)
  let sizes :=
    if 0 < free then growInto free ds
    else if free < 0 then shrinkBy (-free) ds
    else ds.map Demand.basis
  let overflow := Scalar.total sizes - available
  { sizes, overflow := if Scalar.tolerance < overflow then overflow else 0 }

end ResponsiveLayout
