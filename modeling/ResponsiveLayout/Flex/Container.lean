import ResponsiveLayout.Container.Basic
import ResponsiveLayout.Flex.Arrangement
import ResponsiveLayout.Flex.Config
import ResponsiveLayout.Flex.Distribution

/-!
A row or column of items. A layout pass measures the items in order, gives each its length and
start along the main axis, and places it; items that the host refuses are dropped at the end of
the pass. Every change that matters runs a pass at once, or leaves one owed while there is no room.
-/

namespace ResponsiveLayout

/-- A row or column. `dirty` tells that a pass is owed; `passes` counts the ones that placed
something. -/
structure FlexBox (α : Type) where
  config : FlexConfig α
  items : Registry (Item α)
  size : Size α
  dirty : Bool
  passes : Nat
deriving DecidableEq

namespace FlexBox

variable {α σ : Type} [Scalar α]

def new (config : FlexConfig α) : FlexBox α where
  config := { config with gap := Scalar.sanitize config.gap }
  items := .empty
  size := .zero
  dirty := false
  passes := 0

def demand (c : FlexBox α) (item : Item α) (preferred : Size α) : Demand α where
  basis := item.basis.getD (c.config.direction.main preferred)
  grow := item.grow
  shrink := item.shrink

def frameOf (c : FlexBox α) (item : Item α) (preferred : Size α) (start length : α) : Rect α :=
  let d := c.config.direction
  let cross := (item.align.getD c.config.align).resolve (d.cross preferred) (d.cross c.size)
  d.frame start length cross.1 cross.2

/-- The room that `n` items have along the main axis, the gaps between them taken off. -/
def room (c : FlexBox α) (n : Nat) : α :=
  Scalar.positive (c.config.direction.main c.size - c.config.gap * ((n - 1 : Nat) : α))

def frames (c : FlexBox α) (measured : List (Slot (Item α) × Size α)) :
    List (Slot (Item α) × Rect α) :=
  let available := c.room measured.length
  let sizes := (distribute (measured.map fun m => c.demand m.1.item m.2) available).sizes
  let starts := arrange c.config.justify sizes available c.config.gap
  (measured.zip (starts.zip sizes)).map fun (m, start, length) =>
    (m.1, c.frameOf m.1.item m.2 start length)

/-- Measure the items in order, place the measured ones, and drop the refused ones. -/
def pass (h : Host α σ) (c : FlexBox α) : StateM σ (FlexBox α) := do
  let (measured, unmeasured) ← attempt (fun s => h.measure s.item.widget) (c.items.inOrder Item.order)
  let (_, unplaced) ← attempt (fun f => h.place f.1.item.widget (.frame f.2)) (c.frames measured)
  pure { c with
    items := c.items.eraseIds (unmeasured.map Slot.id ++ unplaced.map fun f => f.1.id)
    dirty := false
    passes := if measured.isEmpty then c.passes else c.passes + 1 }

/-- Run a pass, or owe it while there are items without room for them. -/
def relayout (h : Host α σ) (c : FlexBox α) : StateM σ (FlexBox α) :=
  if c.items.isEmpty || c.size.isEmpty then pure { c with dirty := !c.items.isEmpty }
  else c.pass h

/-- Take a new size; the same size again changes nothing unless a pass is owed. -/
def resize (h : Host α σ) (size : Size α) (c : FlexBox α) : StateM σ (FlexBox α) :=
  if size.same c.size && !c.dirty then pure c else { c with size }.relayout h

section

variable {τ : Type} {P : σ → τ → Prop} {h : Host α σ} {k : Host α τ}

theorem pass_lockstep (hk : h.Lockstep P k) (c : FlexBox α) :
    Lockstep P (c.pass h) (c.pass k) := by
  unfold pass
  refine .bind (.attempt (fun _ => hk.measure _) _) fun measured => ?_
  exact .bind (.attempt (fun _ => hk.place _ _) _) fun _ => .pure _

theorem relayout_lockstep (hk : h.Lockstep P k) (c : FlexBox α) :
    Lockstep P (c.relayout h) (c.relayout k) :=
  .ite _ (.pure _) (pass_lockstep hk c)

theorem resize_lockstep (hk : h.Lockstep P k) (size : Size α) (c : FlexBox α) :
    Lockstep P (c.resize h size) (c.resize k size) :=
  .ite _ (.pure _) (relayout_lockstep hk _)

end

instance : Container (FlexBox α) α where
  relayout := relayout
  resize := resize
  isDirty := dirty
  itemCount c := c.items.size
  relayout_lockstep := relayout_lockstep
  resize_lockstep := resize_lockstep

def changed (h : Host α σ) (c : FlexBox α) : StateM σ (FlexBox α) :=
  { c with dirty := true }.relayout h

def add (h : Host α σ) (item : Item α) (c : FlexBox α) : StateM σ (ItemId × FlexBox α) := do
  pure (c.items.nextId, ← { c with items := c.items.add item }.changed h)

def remove (h : Host α σ) (t : Target) (c : FlexBox α) : StateM σ (Nat × FlexBox α) := do
  let items := c.items.erase fun s => t.hits s.id s.item.widget
  let removed := c.items.size - items.size
  if removed = 0 then pure (0, c) else pure (removed, ← { c with items }.changed h)

def clear (h : Host α σ) (c : FlexBox α) : StateM σ (FlexBox α) :=
  if c.items.isEmpty then pure c else { c with items := c.items.clear }.changed h

def reconfigure (h : Host α σ) (config : FlexConfig α) (c : FlexBox α) : StateM σ (FlexBox α) :=
  { c with config }.changed h

def setDirection (h : Host α σ) (d : Direction) (c : FlexBox α) : StateM σ (FlexBox α) :=
  if c.config.direction = d then pure c else c.reconfigure h { c.config with direction := d }

def setAlign (h : Host α σ) (a : Align) (c : FlexBox α) : StateM σ (FlexBox α) :=
  if c.config.align = a then pure c else c.reconfigure h { c.config with align := a }

def setJustify (h : Host α σ) (j : Justify) (c : FlexBox α) : StateM σ (FlexBox α) :=
  if c.config.justify = j then pure c else c.reconfigure h { c.config with justify := j }

def setGap (h : Host α σ) (gap : α) (c : FlexBox α) : StateM σ (FlexBox α) :=
  let gap := Scalar.sanitize gap
  if c.config.gap == gap then pure c else c.reconfigure h { c.config with gap }

/-- Put the changed item in the place of an item and tell whether there was one. An item that is
the same as before is left alone. -/
def update (h : Host α σ) (id : ItemId) (f : Item α → Item α) (c : FlexBox α) :
    StateM σ (Bool × FlexBox α) := do
  match c.items.get? id with
  | none => pure (false, c)
  | some item =>
    if (f item).same item then pure (true, c)
    else pure (true, ← { c with items := c.items.modify (·.id == id) fun _ => f item }.changed h)

section

variable {τ : Type} {P : σ → τ → Prop} {h : Host α σ} {k : Host α τ}

theorem changed_lockstep (hk : h.Lockstep P k) (c : FlexBox α) :
    Lockstep P (c.changed h) (c.changed k) :=
  relayout_lockstep hk _

theorem add_lockstep (hk : h.Lockstep P k) (item : Item α) (c : FlexBox α) :
    Lockstep P (c.add h item) (c.add k item) :=
  .bind (changed_lockstep hk _) fun _ => .pure _

theorem remove_lockstep (hk : h.Lockstep P k) (t : Target) (c : FlexBox α) :
    Lockstep P (c.remove h t) (c.remove k t) :=
  .ite _ (.pure _) (.bind (changed_lockstep hk _) fun _ => .pure _)

theorem clear_lockstep (hk : h.Lockstep P k) (c : FlexBox α) :
    Lockstep P (c.clear h) (c.clear k) :=
  .ite _ (.pure _) (changed_lockstep hk _)

theorem reconfigure_lockstep (hk : h.Lockstep P k) (config : FlexConfig α) (c : FlexBox α) :
    Lockstep P (c.reconfigure h config) (c.reconfigure k config) :=
  changed_lockstep hk _

theorem update_lockstep (hk : h.Lockstep P k) (id : ItemId) (f : Item α → Item α) (c : FlexBox α) :
    Lockstep P (c.update h id f) (c.update k id f) := by
  unfold update
  cases c.items.get? id with
  | none => exact .pure _
  | some item => exact .ite _ (.pure _) (.bind (changed_lockstep hk _) fun _ => .pure _)

end

end FlexBox

end ResponsiveLayout
