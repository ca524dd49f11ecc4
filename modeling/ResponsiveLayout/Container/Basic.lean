import ResponsiveLayout.Host.Lockstep
import ResponsiveLayout.Item
import ResponsiveLayout.Registry

/-!
What all containers share: they take a new size, they can be laid out again, and they know whether
a layout pass is owed.
-/

namespace ResponsiveLayout

/-- A container of type `C` that measures lengths in `α`. It knows its host by the answers to its
calls and in no other way, so on hosts in lockstep it is in lockstep. -/
class Container (C : Type) (α : outParam Type) where
  relayout {σ : Type} : Host α σ → C → StateM σ C
  resize {σ : Type} : Host α σ → Size α → C → StateM σ C
  isDirty : C → Bool
  itemCount : C → Nat
  relayout_lockstep {σ τ : Type} {P : σ → τ → Prop} {h : Host α σ} {k : Host α τ}
    (hk : h.Lockstep P k) (c : C) : Lockstep P (relayout h c) (relayout k c)
  resize_lockstep {σ τ : Type} {P : σ → τ → Prop} {h : Host α σ} {k : Host α τ}
    (hk : h.Lockstep P k) (size : Size α) (c : C) : Lockstep P (resize h size c) (resize k size c)

def Container.settle {C α σ : Type} [Container C α] (h : Host α σ) (c : C) : StateM σ C :=
  if Container.isDirty c then Container.relayout h c else pure c

end ResponsiveLayout
