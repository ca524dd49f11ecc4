import ResponsiveLayout.Host.Basic

/-!
Computations in lockstep give the same answer and keep their states related. Whoever learns nothing
of a host but the answers to its calls is in lockstep on any two hosts whose calls are.
-/

namespace ResponsiveLayout

variable {α σ τ β γ ε : Type}

/-- Two computations that give the same answer in related states and leave related states. -/
def Lockstep (P : σ → τ → Prop) (m : StateM σ β) (n : StateM τ β) : Prop :=
  ∀ s t, P s t → (m s).1 = (n t).1 ∧ P (m s).2 (n t).2

structure Host.Lockstep (h : Host α σ) (P : σ → τ → Prop) (k : Host α τ) : Prop where
  measure : ∀ w, ResponsiveLayout.Lockstep P (h.measure w) (k.measure w)
  place : ∀ w p, ResponsiveLayout.Lockstep P (h.place w p) (k.place w p)
  restack : ∀ w m, ResponsiveLayout.Lockstep P (h.restack w m) (k.restack w m)
  configureGrid : ∀ t, ResponsiveLayout.Lockstep P (h.configureGrid t) (k.configureGrid t)

namespace Lockstep

variable {P : σ → τ → Prop} {m : StateM σ β} {n : StateM τ β}

theorem pure (b : β) : Lockstep P (Pure.pure b : StateM σ β) (Pure.pure b) :=
  fun _ _ hs => ⟨rfl, hs⟩

theorem bind {f : β → StateM σ γ} {g : β → StateM τ γ} (hm : Lockstep P m n)
    (hf : ∀ b, Lockstep P (f b) (g b)) : Lockstep P (m >>= f) (n >>= g) := by
  intro s t hs
  obtain ⟨ha, hp⟩ := hm s t hs
  change (f (m s).1 (m s).2).1 = (g (n t).1 (n t).2).1 ∧ P (f (m s).1 (m s).2).2 (g (n t).1 (n t).2).2
  rw [← ha]
  exact hf (m s).1 _ _ hp

theorem map (f : β → γ) (hm : Lockstep P m n) : Lockstep P (f <$> m) (f <$> n) := by
  intro s t hs
  obtain ⟨ha, hp⟩ := hm s t hs
  exact ⟨congrArg f ha, hp⟩

theorem ite (c : Prop) [Decidable c] {m' : StateM σ β} {n' : StateM τ β} (hm : Lockstep P m n)
    (hm' : Lockstep P m' n') : Lockstep P (if c then m else m') (if c then n else n') := by
  split
  · exact hm
  · exact hm'

theorem attempt {call : β → StateM σ (Except ε γ)} {call' : β → StateM τ (Except ε γ)}
    (hc : ∀ b, Lockstep P (call b) (call' b)) (bs : List β) :
    Lockstep P (attempt call bs) (attempt call' bs) := by
  induction bs with
  | nil => exact pure _
  | cons b bs ih =>
    refine bind (hc b) fun answer => bind ih fun rest => ?_
    cases answer <;> exact pure _

end Lockstep

end ResponsiveLayout
