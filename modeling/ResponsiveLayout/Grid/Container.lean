import ResponsiveLayout.Container.Basic
import ResponsiveLayout.Grid.Config

/-!
A grid that fills rows of columns from left to right. The width of the container selects a tier
and the tier selects the column span of each item; an item that does not fit into the rest of a
row starts the next one. Only a change of tier, not every change of width, runs a layout pass.
-/

namespace ResponsiveLayout

/-- A grid, which has at least one column. `tier` is the place of the tier that `width` belongs to,
zero if the table has no tiers. -/
structure Grid (α : Type) where
  columns : UInt16
  columns_pos : 0 < columns
  gap : α
  breakpoints : Breakpoints α
  items : Registry (Item α)
  width : α
  tier : Nat
  dirty : Bool
  passes : Nat
deriving DecidableEq

structure Cursor where
  row : UInt32
  col : UInt16
deriving DecidableEq

namespace Cursor

/-- The place for an item that spans some columns: here, or at the start of the next row. -/
def fit (c : Cursor) (span columns : UInt16) : Cursor :=
  if columns.toNat < c.col.toNat + span.toNat then ⟨c.row + 1, 0⟩ else c

def advance (c : Cursor) (span : UInt16) : Cursor := { c with col := c.col + span }

def cell (c : Cursor) (span : UInt16) : Cell := ⟨c.row, c.col, 1, span⟩

end Cursor

namespace Grid

variable {α σ : Type}

def new [Scalar α] (config : GridConfig α) : Except (LayoutError α) (Grid α) :=
  match hfault : config.fault? with
  | some e => .error e
  | none => .ok {
      columns := config.columns
      columns_pos := config.columns_pos hfault
      gap := Scalar.sanitize config.gap
      breakpoints := config.breakpoints
      items := .empty
      width := 0
      tier := (config.breakpoints.resolveIndex 0).getD 0
      dirty := false
      passes := 0 }

def tierName (g : Grid α) : String := g.breakpoints.nameAt g.tier

def tracks (g : Grid α) : Tracks α := .uniform g.columns g.gap

/-- The span of an item in the current tier; without one it spans all columns. -/
def spanOf (g : Grid α) (item : Item α) : UInt16 :=
  clampSpan ((item.spans.lastOf g.breakpoints (g.tier + 1)).getD g.columns) g.columns

/-- Place items one after the other and return those that the host refuses. A refused item takes
no columns, but a row that was started for it stays started. -/
def packFrom (h : Host α σ) (g : Grid α) : Cursor → List (Slot (Item α)) →
    StateM σ (List (Slot (Item α)))
  | _, [] => pure []
  | cursor, s :: ss => do
    let span := g.spanOf s.item
    let here := cursor.fit span g.columns
    match ← h.place s.item.widget (.cell (here.cell span)) with
    | .ok () => packFrom h g (here.advance span) ss
    | .error _ => return s :: (← packFrom h g here ss)

/-- Hand the tracks to the host, place the items in order, and drop the refused ones. -/
def pass (h : Host α σ) (g : Grid α) : StateM σ (Grid α) := do
  h.configureGrid g.tracks
  let refused ← packFrom h g ⟨0, 0⟩ (g.items.inOrder Item.order)
  pure { g with
    items := g.items.eraseIds (refused.map Slot.id)
    dirty := false
    passes := g.passes + 1 }

variable [Scalar α]

/-- Run a pass, or owe it while there are items without width for them. -/
def relayout (h : Host α σ) (g : Grid α) : StateM σ (Grid α) :=
  if g.items.isEmpty || !decide (0 < g.width) then pure { g with dirty := !g.items.isEmpty }
  else g.pass h

/-- Take a new width. Within the tier nothing is laid out unless a pass is owed. -/
def setWidth (h : Host α σ) (width : α) (g : Grid α) : StateM σ (Grid α) :=
  let tier := (g.breakpoints.resolveIndex width).getD 0
  let g' := { g with width, tier }
  if tier = g.tier && !g.dirty then pure g' else g'.relayout h

def resize (h : Host α σ) (size : Size α) (g : Grid α) : StateM σ (Grid α) := g.setWidth h size.width

section

variable {τ : Type} {P : σ → τ → Prop} {h : Host α σ} {k : Host α τ}

omit [Scalar α] in
theorem packFrom_lockstep (hk : h.Lockstep P k) (g : Grid α) (cursor : Cursor)
    (ss : List (Slot (Item α))) : Lockstep P (packFrom h g cursor ss) (packFrom k g cursor ss) := by
  induction ss generalizing cursor with
  | nil => exact .pure _
  | cons s ss ih =>
    unfold packFrom
    refine .bind (hk.place _ _) fun answer => ?_
    cases answer with
    | ok => exact ih _
    | error => exact .bind (ih _) fun _ => .pure _

omit [Scalar α] in
theorem pass_lockstep (hk : h.Lockstep P k) (g : Grid α) : Lockstep P (g.pass h) (g.pass k) := by
  unfold pass
  refine .bind (hk.configureGrid _) fun _ => ?_
  exact .bind (packFrom_lockstep hk g _ _) fun _ => .pure _

theorem relayout_lockstep (hk : h.Lockstep P k) (g : Grid α) :
    Lockstep P (g.relayout h) (g.relayout k) :=
  .ite _ (.pure _) (pass_lockstep hk g)

theorem setWidth_lockstep (hk : h.Lockstep P k) (width : α) (g : Grid α) :
    Lockstep P (g.setWidth h width) (g.setWidth k width) :=
  .ite _ (.pure _) (relayout_lockstep hk _)

theorem resize_lockstep (hk : h.Lockstep P k) (size : Size α) (g : Grid α) :
    Lockstep P (g.resize h size) (g.resize k size) :=
  setWidth_lockstep hk size.width g

end

instance : Container (Grid α) α where
  relayout := relayout
  resize := resize
  isDirty := dirty
  itemCount g := g.items.size
  relayout_lockstep := relayout_lockstep
  resize_lockstep := resize_lockstep

def changed (h : Host α σ) (g : Grid α) : StateM σ (Grid α) := { g with dirty := true }.relayout h

def add (h : Host α σ) (item : Item α) (g : Grid α) : StateM σ (ItemId × Grid α) := do
  pure (g.items.nextId, ← { g with items := g.items.add item }.changed h)

def remove (h : Host α σ) (t : Target) (g : Grid α) : StateM σ (Nat × Grid α) := do
  let items := g.items.erase fun s => t.hits s.id s.item.widget
  let removed := g.items.size - items.size
  if removed = 0 then pure (0, g) else pure (removed, ← { g with items }.changed h)

def clear (h : Host α σ) (g : Grid α) : StateM σ (Grid α) :=
  if g.items.isEmpty then pure g else { g with items := g.items.clear }.changed h

def setGap (h : Host α σ) (gap : α) (g : Grid α) : StateM σ (Grid α) :=
  let gap := Scalar.sanitize gap
  if g.gap == gap then pure g else { g with gap }.changed h

section

variable {τ : Type} {P : σ → τ → Prop} {h : Host α σ} {k : Host α τ}

theorem changed_lockstep (hk : h.Lockstep P k) (g : Grid α) :
    Lockstep P (g.changed h) (g.changed k) :=
  relayout_lockstep hk _

theorem add_lockstep (hk : h.Lockstep P k) (item : Item α) (g : Grid α) :
    Lockstep P (g.add h item) (g.add k item) :=
  .bind (changed_lockstep hk _) fun _ => .pure _

theorem remove_lockstep (hk : h.Lockstep P k) (t : Target) (g : Grid α) :
    Lockstep P (g.remove h t) (g.remove k t) :=
  .ite _ (.pure _) (.bind (changed_lockstep hk _) fun _ => .pure _)

theorem clear_lockstep (hk : h.Lockstep P k) (g : Grid α) :
    Lockstep P (g.clear h) (g.clear k) :=
  .ite _ (.pure _) (changed_lockstep hk _)

theorem setGap_lockstep (hk : h.Lockstep P k) (gap : α) (g : Grid α) :
    Lockstep P (g.setGap h gap) (g.setGap k gap) :=
  .ite _ (.pure _) (changed_lockstep hk _)

end

end Grid

end ResponsiveLayout
