import ResponsiveLayout.Container.Operation
import ResponsiveLayout.Proofs.Host.Attempt
import ResponsiveLayout.Proofs.Registry

/-! What a relayout and a resize come to in each of the three containers: a pass over the items when
there are items and room for them, and otherwise a note that one is owed. A resize that would
change nothing is ignored. -/
namespace ResponsiveLayout

variable {α σ β γ ε : Type}

/-- A host that refuses everything and remembers only whether it was called at all. -/
def Host.bell : Host α Bool where
  measure w _ := (.error (.destroyed w), true)
  place w _ _ := (.error (.destroyed w), true)
  restack w _ _ := (.error (.destroyed w), true)
  configureGrid _ _ := ((), true)

theorem attempt_rings {call : β → StateM Bool (Except ε γ)} (hc : ∀ b s, (call b s).2 = true)
    {bs : List β} (hbs : bs ≠ []) (s : Bool) : (attempt call bs s).2 = true := by
  obtain ⟨b, bs, rfl⟩ := List.exists_cons_of_ne_nil hbs
  rw [attempt_cons]
  exact attempt_invariant (P := (· = true)) (fun b s _ => hc b s) bs (hc b s)

/-- A container that lays out in passes over its items. A pass needs items and room for them; what
cannot be done now is owed. A resize takes its size and lays out, unless it is ignored. -/
class Passing (C : Type) (α O : outParam Type) extends Operable C α O where
  isReady : C → Bool
  pass {σ : Type} : Host α σ → C → StateM σ C
  owing : C → C
  ignores : Size α → C → Bool
  unmoved : Size α → C → C
  takes : Size α → C → C
  isReady_owing (c : C) : isReady (owing c) = isReady c
  relayout_eq {σ : Type} (h : Host α σ) (c : C) :
    Container.relayout h c = if isReady c then pass h c else pure (owing c)
  resize_eq {σ : Type} (h : Host α σ) (size : Size α) (c : C) :
    Container.resize h size c =
      if ignores size c then pure (unmoved size c) else Container.relayout h (takes size c)
  pass_rings {c : C} (hc : isReady c = true) : (pass Host.bell c false).2 = true

variable [Scalar α]

namespace FlexBox

def isReady (c : FlexBox α) : Bool := !(c.items.isEmpty || c.size.isEmpty)

theorem relayout_eq (h : Host α σ) (c : FlexBox α) :
    c.relayout h = if c.isReady then c.pass h else pure { c with dirty := !c.items.isEmpty } := by
  unfold relayout isReady
  cases c.items.isEmpty || c.size.isEmpty <;> rfl

theorem pass_rings {c : FlexBox α} (hc : c.isReady = true) : (c.pass Host.bell false).2 = true := by
  have hitems : c.items.inOrder Item.order ≠ [] := Registry.inOrder_ne_nil_of_ready hc
  have hcall (s : Slot (Item α)) (r : Bool) :
      ((Host.bell : Host α Bool).measure s.item.widget r).2 = true := rfl
  exact attempt_invariant (P := (· = true)) (fun _ _ _ => rfl) _ (attempt_rings hcall hitems false)

instance : Passing (FlexBox α) α (FlexOperation α) where
  isReady := isReady
  pass := pass
  owing c := { c with dirty := !c.items.isEmpty }
  ignores size c := size.same c.size && !c.dirty
  unmoved _ c := c
  takes size c := { c with size }
  isReady_owing _ := rfl
  relayout_eq := relayout_eq
  resize_eq _ _ _ := rfl
  pass_rings := pass_rings

end FlexBox

namespace Grid

def isReady (g : Grid α) : Bool := !(g.items.isEmpty || !decide (0 < g.width))

theorem relayout_eq (h : Host α σ) (g : Grid α) :
    g.relayout h = if g.isReady then g.pass h else pure { g with dirty := !g.items.isEmpty } := by
  unfold relayout isReady
  cases g.items.isEmpty || !decide (0 < g.width) <;> rfl

omit [Scalar α] in
theorem packFrom_rung (g : Grid α) (cursor : Cursor) (ss : List (Slot (Item α))) :
    (packFrom Host.bell g cursor ss true).2 = true := by
  induction ss generalizing cursor with
  | nil => rfl
  | cons s ss ih => exact ih _

instance : Passing (Grid α) α (GridOperation α) where
  isReady := isReady
  pass := pass
  owing g := { g with dirty := !g.items.isEmpty }
  ignores size g := (g.breakpoints.resolveIndex size.width).getD 0 = g.tier && !g.dirty
  unmoved size g := { g with width := size.width, tier := (g.breakpoints.resolveIndex size.width).getD 0 }
  takes size g := { g with width := size.width, tier := (g.breakpoints.resolveIndex size.width).getD 0 }
  isReady_owing _ := rfl
  relayout_eq := relayout_eq
  resize_eq _ _ _ := rfl
  pass_rings {g} _ := packFrom_rung g _ _

end Grid

namespace LayerStack

def isReady (c : LayerStack α) : Bool := !(c.items.isEmpty || c.size.isEmpty)

theorem relayout_eq (h : Host α σ) (c : LayerStack α) :
    c.relayout h = if c.isReady then c.pass h else pure { c with dirty := !c.items.isEmpty } := by
  unfold relayout isReady
  cases c.items.isEmpty || c.size.isEmpty <;> rfl

theorem pass_rings {c : LayerStack α} (hc : c.isReady = true) :
    (c.pass Host.bell false).2 = true := by
  have hitems : c.items.inOrder Layer.z ≠ [] := Registry.inOrder_ne_nil_of_ready hc
  exact attempt_rings (fun _ _ => rfl) hitems false

instance : Passing (LayerStack α) α StackOperation where
  isReady := isReady
  pass := pass
  owing c := { c with dirty := !c.items.isEmpty }
  ignores size c := size.same c.size && !c.dirty
  unmoved _ c := c
  takes size c := { c with size }
  isReady_owing _ := rfl
  relayout_eq := relayout_eq
  resize_eq _ _ _ := rfl
  pass_rings := pass_rings

end LayerStack

end ResponsiveLayout
