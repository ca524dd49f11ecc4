import ResponsiveLayout.Proofs.Container.Predictable

/-! One relayout is enough. On a host whose answers depend on the kind of call and the widget alone, a
relayout drops all that will ever be refused, and every further one makes the same calls again. -/
namespace ResponsiveLayout

variable {α σ ι C O : Type}

/-- From here on, every relayout makes the same calls, is given the same answers and changes nothing
but the count of passes. -/
def Repeats [Operable C α O] (h : Host α σ) (counting : Nat → C) (c : C)
    (x : σ × List (Exchange α)) : Prop :=
  ∃ es, ∀ k, ∃ n s', Operation.run h.transcribed (List.replicate k .relayout) c x =
    (counting n, s', x.2 ++ (List.replicate k es).flatten)

namespace Predictable

variable [Predictable C ι α O] {a : Answers α} {c : C}

/-- A container that a relayout leaves as it is, but for the count of passes. -/
structure Settled (a : Answers α) (c : C) : Prop where
  kept : kept a c = items c
  owes : owes c = Container.isDirty c

theorem settled_refill (a : Answers α) (c : C) (n : Nat) :
    Settled a (refill c (kept a c) (owes c) n) := by
  cases hready : Passing.isReady c with
  | true =>
    -- What is refused has been dropped, so the next pass drops nothing; if it has no items left, it is
    -- skipped and owes nothing.
    have hkept : Predictable.kept a c = (items c).erase fun s => refuses c a s.item := if_pos hready
    have hroom : cramped c = false := by
      rw [isReady_eq, Bool.not_or, Bool.and_eq_true, Bool.not_eq_true', Bool.not_eq_true'] at hready
      exact hready.2
    constructor
    · rw [Predictable.kept, items_refill, refuses_refill, hkept, Registry.erase_erase]
      simp only [Bool.or_self, ite_self]
    · rw [Predictable.owes, isReady_refill, items_refill, isDirty_refill, Predictable.owes, hready,
        hroom, Bool.or_false, Bool.not_not, Bool.and_not_self]
      rfl
  | false =>
    have hkept : Predictable.kept a c = items c := by
      rw [Predictable.kept, hready, if_neg Bool.false_ne_true]
    have hskipped : Passing.isReady (refill c (items c) (Predictable.owes c) n) = false := by
      rw [isReady_refill, ← isReady_eq, hready]
    rw [hkept]
    constructor
    · rw [Predictable.kept, hskipped, if_neg Bool.false_ne_true]
    · rw [Predictable.owes, hskipped, items_refill, isDirty_refill, Predictable.owes, hready]

theorem told_refill (a : Answers α) (c : C) (b : Bool) (n : Nat) :
    told a (refill c (items c) b n) = told a c := by
  rw [told, told, isReady_refill, ← isReady_eq, items_refill, key_refill, calls_refill]

variable {h : Host α σ} {P : σ → Prop}

theorem run_settled (hh : h.Steady a P) (k : Nat) {c : C} (hc : Settled a c) {s : σ} (hs : P s)
    (log : List (Exchange α)) :
    ∃ n s', Operation.run h.transcribed (List.replicate k .relayout) c (s, log) =
      (refill c (items c) (Container.isDirty c) n, s',
        log ++ (List.replicate k (told a c)).flatten) := by
  induction k generalizing c s log with
  | zero =>
    refine ⟨passes c, s, ?_⟩
    rw [refill_self, List.replicate_zero, List.replicate_zero, List.flatten_nil, List.append_nil]
    rfl
  | succ k ih =>
    obtain ⟨n₁, s₁, hs₁, hstep⟩ := relayout_steady hh c hs log
    have hc₁ := settled_refill a c n₁
    rw [hc.kept, hc.owes] at hstep hc₁
    obtain ⟨n, s', hrest⟩ := ih hc₁ hs₁ (log ++ told a c)
    rw [refill_refill, items_refill, isDirty_refill, told_refill] at hrest
    refine ⟨n, s', ?_⟩
    let c₁ := refill c (items c) (Container.isDirty c) n₁
    calc
      Operation.run h.transcribed (List.replicate (k + 1) .relayout) c (s, log)
        = Operation.run h.transcribed (List.replicate k .relayout)
            (Container.relayout h.transcribed c (s, log)).1
            (Container.relayout h.transcribed c (s, log)).2 := rfl
      _ = Operation.run h.transcribed (List.replicate k .relayout) c₁ (s₁, log ++ told a c) := by
        rw [hstep]
      _ = (refill c (items c) (Container.isDirty c) n, s',
            log ++ (List.replicate (k + 1) (told a c)).flatten) := by
        rw [hrest, List.replicate_succ, List.flatten_cons, List.append_assoc]

theorem repeats_relayout (hh : h.Steady a P) (c : C) {s : σ} (hs : P s) (log : List (Exchange α)) :
    let x := Container.relayout h.transcribed c (s, log)
    Repeats h (refill x.1 (items x.1) (Container.isDirty x.1)) x.1 x.2 := by
  obtain ⟨n, s', hs', hx⟩ := relayout_steady hh c hs log
  rw [hx]
  have hsettled := settled_refill a c n
  exact ⟨told a _, fun k => run_settled hh k hsettled hs' (log ++ told a c)⟩

end Predictable

variable [Scalar α]

/-- After one relayout nothing more is dropped, whichever calls the host refuses: every further relayout
leaves the container as it is, but for the count of passes, and makes the same calls as every other. -/
theorem relayout_settles {h : Host α σ} {a : Answers α} {P : σ → Prop} (hh : h.Steady a P) {s : σ}
    (hs : P s) (log : List (Exchange α)) :
    (∀ c : FlexBox α,
        let x := c.relayout h.transcribed (s, log)
        Repeats h (fun n => { x.1 with passes := n }) x.1 x.2) ∧
      (∀ g : Grid α,
        let x := g.relayout h.transcribed (s, log)
        Repeats h (fun n => { x.1 with passes := n }) x.1 x.2) ∧
      ∀ c : LayerStack α,
        let x := c.relayout h.transcribed (s, log)
        Repeats h (fun n => { x.1 with passes := n }) x.1 x.2 := by
  refine ⟨fun c => ?_, fun g => ?_, fun c => ?_⟩
  · exact Predictable.repeats_relayout hh c hs log
  · exact Predictable.repeats_relayout hh g hs log
  · exact Predictable.repeats_relayout hh c hs log

/-- One container of each kind, on a recorder that refuses the second widget. -/
theorem relayout_settles_destroyed :
    let r := (Recorder.empty : Recorder Float32).destroy ⟨2⟩
    let x := FlexBox.trio.relayout Recorder.host.transcribed (r, [])
    let y := Grid.threefold.relayout Recorder.host.transcribed (r, [])
    let z := LayerStack.trio.relayout Recorder.host.transcribed (r, [])
    Recorder.host.Steady r.answers (fun r' => r'.sizes = r.sizes ∧ r'.destroyed = r.destroyed) ∧
      Repeats Recorder.host (fun n => { x.1 with passes := n }) x.1 x.2 ∧
      Repeats Recorder.host (fun n => { y.1 with passes := n }) y.1 y.2 ∧
      Repeats Recorder.host (fun n => { z.1 with passes := n }) z.1 z.2 :=
  ⟨Recorder.host_steady _,
    (relayout_settles (Recorder.host_steady _) ⟨rfl, rfl⟩ []).1 FlexBox.trio,
    (relayout_settles (Recorder.host_steady _) ⟨rfl, rfl⟩ []).2.1 Grid.threefold,
    (relayout_settles (Recorder.host_steady _) ⟨rfl, rfl⟩ []).2.2 LayerStack.trio⟩

end ResponsiveLayout
