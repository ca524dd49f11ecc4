import ResponsiveLayout.Flex.Container
import ResponsiveLayout.Grid.Container
import ResponsiveLayout.Stack.Container

/-!
The operations of the containers as data, so that whole runs of them can be played and studied.
-/

namespace ResponsiveLayout

inductive Answer (α : Type) where
  | done
  | added (id : ItemId)
  | removed (count : Nat)
  | found (b : Bool)
  | item (i : Option (Item α))
  | span (n : UInt16)
  | grid (columns : UInt16) (tracks : Tracks α) (breakpoints : Breakpoints α)

inductive Operation (α O : Type) where
  | resize (size : Size α)
  | relayout
  | settle
  | own (o : O)

inductive FlexOperation (α : Type) where
  | add (item : Item α)
  | remove (t : Target)
  | clear
  | item (id : ItemId)
  | update (id : ItemId) (f : Item α → Item α)
  | setDirection (d : Direction)
  | setAlign (a : Align)
  | setJustify (j : Justify)
  | setGap (gap : α)

inductive GridOperation (α : Type) where
  | add (item : Item α)
  | remove (t : Target)
  | clear
  | item (id : ItemId)
  | setWidth (width : α)
  | setGap (gap : α)
  | spanOf (item : Item α)
  | describe

inductive StackOperation where
  | add (w : Widget) (z : Int32)
  | remove (t : Target)
  | clear
  | bringToFront (t : Target)
  | sendToBack (t : Target)

class Operable (C : Type) (α O : outParam Type) extends Container C α where
  perform {σ : Type} : Host α σ → O → C → StateM σ (Answer α × C)
  perform_lockstep {σ τ : Type} {P : σ → τ → Prop} {h : Host α σ} {k : Host α τ}
    (hk : h.Lockstep P k) (o : O) (c : C) : Lockstep P (perform h o c) (perform k o c)

variable {α σ : Type}

def tell {β C : Type} (f : β → Answer α) (m : StateM σ (β × C)) : StateM σ (Answer α × C) :=
  (fun r => (f r.1, r.2)) <$> m

def tellDone {C : Type} (m : StateM σ C) : StateM σ (Answer α × C) := (fun c => (.done, c)) <$> m

section

variable [Scalar α]

def FlexBox.perform (h : Host α σ) (o : FlexOperation α) (c : FlexBox α) :
    StateM σ (Answer α × FlexBox α) :=
  match o with
  | .add item => tell .added (c.add h item)
  | .remove t => tell .removed (c.remove h t)
  | .clear => tellDone (c.clear h)
  | .item id => pure (.item (c.items.get? id), c)
  | .update id f => tell .found (c.update h id f)
  | .setDirection d => tellDone (c.setDirection h d)
  | .setAlign a => tellDone (c.setAlign h a)
  | .setJustify j => tellDone (c.setJustify h j)
  | .setGap gap => tellDone (c.setGap h gap)

def Grid.perform (h : Host α σ) (o : GridOperation α) (g : Grid α) : StateM σ (Answer α × Grid α) :=
  match o with
  | .add item => tell .added (g.add h item)
  | .remove t => tell .removed (g.remove h t)
  | .clear => tellDone (g.clear h)
  | .item id => pure (.item (g.items.get? id), g)
  | .setWidth width => tellDone (g.setWidth h width)
  | .setGap gap => tellDone (g.setGap h gap)
  | .spanOf item => pure (.span (g.spanOf item), g)
  | .describe => pure (.grid g.columns g.tracks g.breakpoints, g)

def LayerStack.perform (h : Host α σ) (o : StackOperation) (c : LayerStack α) :
    StateM σ (Answer α × LayerStack α) :=
  match o with
  | .add w z => tell .added (c.add h w z)
  | .remove t => tell .removed (c.remove h t)
  | .clear => tellDone (c.clear h)
  | .bringToFront t => tell .found (c.bringToFront h t)
  | .sendToBack t => tell .found (c.sendToBack h t)

section

variable {τ : Type} {P : σ → τ → Prop} {h : Host α σ} {k : Host α τ}

theorem FlexBox.perform_lockstep (hk : h.Lockstep P k) (o : FlexOperation α) (c : FlexBox α) :
    Lockstep P (c.perform h o) (c.perform k o) := by
  cases o with
  | add item => exact .map _ (c.add_lockstep hk item)
  | remove t => exact .map _ (c.remove_lockstep hk t)
  | clear => exact .map _ (c.clear_lockstep hk)
  | item id => exact .pure _
  | update id f => exact .map _ (c.update_lockstep hk id f)
  | setDirection d => exact .map _ (.ite _ (.pure _) (reconfigure_lockstep hk _ c))
  | setAlign a => exact .map _ (.ite _ (.pure _) (reconfigure_lockstep hk _ c))
  | setJustify j => exact .map _ (.ite _ (.pure _) (reconfigure_lockstep hk _ c))
  | setGap gap => exact .map _ (.ite _ (.pure _) (reconfigure_lockstep hk _ c))

theorem Grid.perform_lockstep (hk : h.Lockstep P k) (o : GridOperation α) (g : Grid α) :
    Lockstep P (g.perform h o) (g.perform k o) := by
  cases o with
  | add item => exact .map _ (g.add_lockstep hk item)
  | remove t => exact .map _ (g.remove_lockstep hk t)
  | clear => exact .map _ (g.clear_lockstep hk)
  | setWidth width => exact .map _ (g.setWidth_lockstep hk width)
  | setGap gap => exact .map _ (g.setGap_lockstep hk gap)
  | item | spanOf | describe => exact .pure _

theorem LayerStack.perform_lockstep (hk : h.Lockstep P k) (o : StackOperation) (c : LayerStack α) :
    Lockstep P (c.perform h o) (c.perform k o) := by
  cases o with
  | add w z => exact .map _ (c.add_lockstep hk w z)
  | remove t => exact .map _ (c.remove_lockstep hk t)
  | clear => exact .map _ (c.clear_lockstep hk)
  | bringToFront t => exact .map _ (c.bringToFront_lockstep hk t)
  | sendToBack t => exact .map _ (c.sendToBack_lockstep hk t)

end

instance : Operable (FlexBox α) α (FlexOperation α) where
  perform := FlexBox.perform
  perform_lockstep := FlexBox.perform_lockstep

instance : Operable (Grid α) α (GridOperation α) where
  perform := Grid.perform
  perform_lockstep := Grid.perform_lockstep

instance : Operable (LayerStack α) α StackOperation where
  perform := LayerStack.perform
  perform_lockstep := LayerStack.perform_lockstep

end

def Operation.perform {C O : Type} [Operable C α O] (h : Host α σ) (o : Operation α O) (c : C) :
    StateM σ (Answer α × C) :=
  match o with
  | .resize size => tellDone (Container.resize h size c)
  | .relayout => tellDone (Container.relayout h c)
  | .settle => tellDone (Container.settle h c)
  | .own o => Operable.perform h o c

def Operation.run {C O : Type} [Operable C α O] (h : Host α σ) (os : List (Operation α O)) (c : C) :
    StateM σ C :=
  os.foldlM (fun c o => Prod.snd <$> o.perform h c) c

section

variable {C O τ : Type} [Operable C α O] {P : σ → τ → Prop} {h : Host α σ} {k : Host α τ}

theorem Container.settle_lockstep (hk : h.Lockstep P k) (c : C) :
    Lockstep P (Container.settle h c) (Container.settle k c) :=
  .ite _ (Container.relayout_lockstep hk c) (.pure _)

theorem Operation.perform_lockstep (hk : h.Lockstep P k) (o : Operation α O) (c : C) :
    Lockstep P (o.perform h c) (o.perform k c) := by
  cases o with
  | resize size => exact .map _ (Container.resize_lockstep hk size c)
  | relayout => exact .map _ (Container.relayout_lockstep hk c)
  | settle => exact .map _ (Container.settle_lockstep hk c)
  | own o => exact Operable.perform_lockstep hk o c

theorem Operation.run_lockstep (hk : h.Lockstep P k) (os : List (Operation α O)) (c : C) :
    Lockstep P (Operation.run h os c) (Operation.run k os c) := by
  induction os generalizing c with
  | nil => exact .pure _
  | cons o os ih => exact .bind (.map _ (perform_lockstep hk o c)) ih

end

end ResponsiveLayout
