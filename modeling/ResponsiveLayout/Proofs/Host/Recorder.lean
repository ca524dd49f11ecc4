import ResponsiveLayout.Host.Recording
import ResponsiveLayout.Proofs.Host.Attempt

/-! The recorder as a host whose answers are known in advance: while nothing is destroyed, it refuses
the widgets destroyed so far and no others, and it appends what it is told to its commands. -/
namespace ResponsiveLayout

variable {α σ β : Type}

/-- A host that, from a state of a given kind on, refuses to place certain widgets and no others. -/
structure Host.Refusing (h : Host α σ) (refuses : Widget → Bool) (P : σ → Prop) : Prop where
  answer : ∀ w p s, P s → (h.place w p s).1.isOk = !refuses w
  place : ∀ w p s, P s → P (h.place w p s).2
  configureGrid : ∀ t s, P s → P (h.configureGrid t s).2

namespace Recorder

variable [Scalar α]

/-- While nothing is destroyed, a recorder refuses the widgets destroyed so far. -/
theorem host_refusing (destroyed : List Widget) :
    (host : Host α (Recorder α)).Refusing destroyed.contains
      (fun r => r.destroyed = destroyed) where
  answer w p r hr := by
    rw [← hr]
    change (ifAlive w (place w p) r).1.isOk = !r.isDestroyed w
    unfold ifAlive
    cases r.isDestroyed w <;> rfl
  place w p r hr := by
    change (ifAlive w (place w p) r).2.destroyed = destroyed
    unfold ifAlive
    cases r.isDestroyed w <;> exact hr
  configureGrid _ _ hr := hr

theorem attempt_measure (w : β → Widget) (bs : List β) (r : Recorder α) :
    attempt (fun b => host.measure (w b)) bs r =
      ((bs.filterMap fun b => (r.measure (w b)).toOption.map fun size => (b, size),
        bs.filter fun b => r.isDestroyed (w b)), r) := by
  let call (b : β) : StateM (Recorder α) (Except HostError (Size α)) := host.measure (w b)
  have hanswer (b : β) (r' : Recorder α) (hr : r' = r) :
      (call b r').1 = r.measure (w b) ∧ (call b r').2 = r :=
    ⟨congrArg (fun r : Recorder α => r.measure (w b)) hr, hr⟩
  have hok (b : β) : (!(r.measure (w b)).isOk) = r.isDestroyed (w b) := by
    unfold measure
    cases r.isDestroyed (w b) <;> rfl
  have hlists := attempt_of_answer _ hanswer bs rfl
  have hstate := attempt_invariant (fun b r' hr => (hanswer b r' hr).2) bs rfl
  simp only [hok] at hlists
  exact Prod.ext hlists hstate

theorem attempt_place (w : β → Widget) (p : β → Placement α) {bs : List β} {r : Recorder α}
    (hr : ∀ b ∈ bs, r.isDestroyed (w b) = false) :
    attempt (fun b => host.place (w b) (p b)) bs r =
      ((bs.map fun b => (b, ()), []),
        { r with commands := r.commands ++ bs.map fun b => .place (w b) (p b) }) := by
  induction bs generalizing r with
  | nil =>
    rw [List.map_nil, List.map_nil, List.append_nil]
    rfl
  | cons b bs ih =>
    have hb : host.place (w b) (p b) r = (.ok (), r.place (w b) (p b)) := by
      change ifAlive (w b) (place (w b) (p b)) r = _
      rw [ifAlive, hr b List.mem_cons_self, if_neg Bool.false_ne_true]
    have hrest : ∀ b' ∈ bs, (r.place (w b) (p b)).isDestroyed (w b') = false :=
      fun b' hb' => hr b' (List.mem_cons_of_mem b hb')
    rw [attempt_cons]
    dsimp only
    rw [hb]
    dsimp only
    rw [ih hrest, List.map_cons, List.map_cons, place, List.append_assoc, List.singleton_append]

end Recorder

end ResponsiveLayout
