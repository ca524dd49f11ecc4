import ResponsiveLayout.Container.Basic

/-!
Widgets on top of each other, each filling the container. The stacking order is by `z`, equal
values in order of registration; a pass places and raises the items from bottom to top, so that
the host ends up with the same order.
-/

namespace ResponsiveLayout

structure Layer where
  widget : Widget
  z : Int32
deriving DecidableEq

structure LayerStack (α : Type) where
  items : Registry Layer
  size : Size α
  dirty : Bool
  passes : Nat
deriving DecidableEq

namespace LayerStack

variable {α σ : Type}

def stackingOrder (c : LayerStack α) : List Widget :=
  (c.items.inOrder Layer.z).map fun s => s.item.widget

def z? (c : LayerStack α) (id : ItemId) : Option Int32 := (c.items.get? id).map Layer.z

/-- The greatest height, zero without items. -/
def top (r : Registry Layer) : Int32 := ((r.slots.map fun s => s.item.z).max?).getD 0

/-- The least height, zero without items. -/
def bottom (r : Registry Layer) : Int32 := ((r.slots.map fun s => s.item.z).min?).getD 0

/-- The height of a place in the stacking order; all places beyond the range share the greatest. -/
def rankHeight (place : Nat) : Int32 := Int32.ofNat (min place 0x7fffffff)

/-- Replace each height by the place in the stacking order. -/
def renumber (r : Registry Layer) : Registry Layer :=
  let ranked := (r.inOrder Layer.z).map Slot.id
  r.mapItems fun s => { s.item with z := rankHeight (ranked.idxOf s.id) }

def meant (t : Target) (s : Slot Layer) : Bool := t.hits s.id s.item.widget

/-- Give the items that a target means a new height and move their widgets to the end of the
host's order that it stands for. Drops the items that the host refuses, and tells whether the
target meant any. -/
def restack (h : Host α σ) (t : Target) (z : Int32) (m : Restack) (c : LayerStack α) :
    StateM σ (Bool × LayerStack α) := do
  let targets := c.items.slots.filter (meant t)
  if targets.isEmpty then pure (false, c)
  else
    let (_, refused) ← attempt (fun s => h.restack s.item.widget m) targets
    let items := c.items.modify (meant t) fun layer => { layer with z }
    pure (true, { c with items := items.eraseIds (refused.map Slot.id) })

/-- Bring the items that a target means above all others. Heights are renumbered first if the
top is at the limit of its range. -/
def bringToFront (h : Host α σ) (t : Target) (c : LayerStack α) : StateM σ (Bool × LayerStack α) :=
  let items := if top c.items = Int32.maxValue then renumber c.items else c.items
  { c with items }.restack h t (top items + 1) .raise

/-- Send the items that a target means below all others. Heights are renumbered first if the
bottom is at the limit of its range. -/
def sendToBack (h : Host α σ) (t : Target) (c : LayerStack α) : StateM σ (Bool × LayerStack α) :=
  if bottom c.items = Int32.minValue then
    { c with items := renumber c.items }.restack h t (-1) .lower
  else c.restack h t (bottom c.items - 1) .lower

variable [Scalar α]

def new : LayerStack α := ⟨.empty, .zero, false, 0⟩

def bounds (c : LayerStack α) : Rect α := ⟨0, 0, c.size.width, c.size.height⟩

def showLayer (h : Host α σ) (c : LayerStack α) (s : Slot Layer) : StateM σ (Except HostError Unit) := do
  match ← h.place s.item.widget (.frame c.bounds) with
  | .ok () => h.restack s.item.widget .raise
  | .error e => pure (.error e)

/-- Place and raise the items from bottom to top and drop the refused ones. -/
def pass (h : Host α σ) (c : LayerStack α) : StateM σ (LayerStack α) := do
  let (_, refused) ← attempt (showLayer h c) (c.items.inOrder Layer.z)
  pure { c with
    items := c.items.eraseIds (refused.map Slot.id)
    dirty := false
    passes := c.passes + 1 }

/-- Run a pass, or owe it while there are items without room for them. -/
def relayout (h : Host α σ) (c : LayerStack α) : StateM σ (LayerStack α) :=
  if c.items.isEmpty || c.size.isEmpty then pure { c with dirty := !c.items.isEmpty }
  else c.pass h

/-- Take a new size; the same size again changes nothing unless a pass is owed. -/
def resize (h : Host α σ) (size : Size α) (c : LayerStack α) : StateM σ (LayerStack α) :=
  if size.same c.size && !c.dirty then pure c else { c with size }.relayout h

section

variable {τ : Type} {P : σ → τ → Prop} {h : Host α σ} {k : Host α τ}

theorem showLayer_lockstep (hk : h.Lockstep P k) (c : LayerStack α) (s : Slot Layer) :
    Lockstep P (showLayer h c s) (showLayer k c s) := by
  unfold showLayer
  refine .bind (hk.place _ _) fun answer => ?_
  cases answer with
  | ok => exact hk.restack _ _
  | error => exact .pure _

theorem pass_lockstep (hk : h.Lockstep P k) (c : LayerStack α) :
    Lockstep P (c.pass h) (c.pass k) := by
  unfold pass
  exact .bind (.attempt (showLayer_lockstep hk c) _) fun _ => .pure _

theorem relayout_lockstep (hk : h.Lockstep P k) (c : LayerStack α) :
    Lockstep P (c.relayout h) (c.relayout k) :=
  .ite _ (.pure _) (pass_lockstep hk c)

theorem resize_lockstep (hk : h.Lockstep P k) (size : Size α) (c : LayerStack α) :
    Lockstep P (c.resize h size) (c.resize k size) :=
  .ite _ (.pure _) (relayout_lockstep hk _)

end

instance : Container (LayerStack α) α where
  relayout := relayout
  resize := resize
  isDirty := dirty
  itemCount c := c.items.size
  relayout_lockstep := relayout_lockstep
  resize_lockstep := resize_lockstep

def changed (h : Host α σ) (c : LayerStack α) : StateM σ (LayerStack α) :=
  { c with dirty := true }.relayout h

def add (h : Host α σ) (w : Widget) (z : Int32) (c : LayerStack α) :
    StateM σ (ItemId × LayerStack α) := do
  pure (c.items.nextId, ← { c with items := c.items.add ⟨w, z⟩ }.changed h)

def remove (h : Host α σ) (t : Target) (c : LayerStack α) : StateM σ (Nat × LayerStack α) := do
  let items := c.items.erase (meant t)
  let removed := c.items.size - items.size
  if removed = 0 then pure (0, c) else pure (removed, ← { c with items }.changed h)

def clear (h : Host α σ) (c : LayerStack α) : StateM σ (LayerStack α) :=
  if c.items.isEmpty then pure c else { c with items := c.items.clear }.changed h

section

variable {τ : Type} {P : σ → τ → Prop} {h : Host α σ} {k : Host α τ}

theorem changed_lockstep (hk : h.Lockstep P k) (c : LayerStack α) :
    Lockstep P (c.changed h) (c.changed k) :=
  relayout_lockstep hk _

theorem add_lockstep (hk : h.Lockstep P k) (w : Widget) (z : Int32) (c : LayerStack α) :
    Lockstep P (c.add h w z) (c.add k w z) :=
  .bind (changed_lockstep hk _) fun _ => .pure _

theorem remove_lockstep (hk : h.Lockstep P k) (t : Target) (c : LayerStack α) :
    Lockstep P (c.remove h t) (c.remove k t) :=
  .ite _ (.pure _) (.bind (changed_lockstep hk _) fun _ => .pure _)

theorem clear_lockstep (hk : h.Lockstep P k) (c : LayerStack α) :
    Lockstep P (c.clear h) (c.clear k) :=
  .ite _ (.pure _) (changed_lockstep hk _)

omit [Scalar α] in
theorem restack_lockstep (hk : h.Lockstep P k) (t : Target) (z : Int32) (m : Restack)
    (c : LayerStack α) : Lockstep P (c.restack h t z m) (c.restack k t z m) := by
  refine .ite _ (.pure _) ?_
  exact .bind (.attempt (fun _ => hk.restack _ _) _) fun _ => .pure _

omit [Scalar α] in
theorem bringToFront_lockstep (hk : h.Lockstep P k) (t : Target) (c : LayerStack α) :
    Lockstep P (c.bringToFront h t) (c.bringToFront k t) :=
  restack_lockstep hk _ _ _ _

omit [Scalar α] in
theorem sendToBack_lockstep (hk : h.Lockstep P k) (t : Target) (c : LayerStack α) :
    Lockstep P (c.sendToBack h t) (c.sendToBack k t) :=
  .ite _ (restack_lockstep hk _ _ _ _) (restack_lockstep hk _ _ _ _)

end

end LayerStack

end ResponsiveLayout
