import ResponsiveLayout.Proofs.Container.Predictable

/-! The order of registration only tells which of two items of one key comes first. When all keys are
distinct and the host's answers depend on the kind of call and the widget alone, it does not matter. -/
namespace ResponsiveLayout

variable {α σ ι C O : Type}

namespace Predictable

variable [Predictable C ι α O] {a : Answers α} {c : C} {r : Registry ι}

theorem contents_kept (a : Answers α) (c : C) :
    (kept a c).contents =
      if Passing.isReady c then (items c).contents.filter (!refuses c a ·) else (items c).contents := by
  rw [kept]
  split
  · exact Registry.contents_erase (items c) (refuses c a)
  · rfl

/-- Calls do not depend on the identities of the items. -/
theorem calls_congr (a : Answers α) (c : C) {ss ts : List (Slot ι)}
    (hcontents : ss.map Slot.item = ts.map Slot.item) : calls c a ss = calls c a ts := by
  have hunnamed (us : List (Slot ι)) : us.map Slot.unnamed = (us.map Slot.item).map (Slot.mk ⟨0⟩) := by
    rw [List.map_map]
    rfl
  rw [← calls_unnamed c a ss, hunnamed, hcontents, ← hunnamed, calls_unnamed]

variable (hperm : r.contents.Perm (items c).contents)
include hperm

theorem isReady_permuted (b : Bool) (n : Nat) :
    Passing.isReady (refill c r b n) = Passing.isReady c := by
  rw [isReady_refill, isReady_eq, ← Registry.isEmpty_contents, ← Registry.isEmpty_contents,
    hperm.isEmpty_eq]

theorem told_permuted (hkeys : ((items c).contents.map (key c)).Nodup) (b : Bool) (n : Nat) :
    told a (refill c r b n) = told a c := by
  have hordered : (r.inOrder (key c)).map Slot.item = ((items c).inOrder (key c)).map Slot.item := by
    rw [Registry.inOrder_contents, Registry.inOrder_contents]
    exact sortByKey_perm_congr (key c) hperm hkeys
  rw [told, told, isReady_permuted hperm, items_refill, key_refill, calls_refill,
    calls_congr a c hordered]

theorem kept_permuted (b : Bool) (n : Nat) :
    (kept a (refill c r b n)).contents.Perm (kept a c).contents := by
  rw [contents_kept, contents_kept, isReady_permuted hperm, items_refill, refuses_refill]
  split
  · exact hperm.filter _
  · exact hperm

theorem relayout_permuted {h : Host α σ} {P : σ → Prop} (hh : h.Steady a P)
    (hkeys : ((items c).contents.map (key c)).Nodup) (b : Bool) (n : Nat) {s s' : σ} (hs : P s)
    (hs' : P s') :
    let x := Container.relayout h.transcribed c (s, [])
    let y := Container.relayout h.transcribed (refill c r b n) (s', [])
    y.2.2 = x.2.2 ∧ (items y.1).contents.Perm (items x.1).contents := by
  obtain ⟨m, t, -, hx⟩ := relayout_steady hh c hs []
  obtain ⟨m', t', -, hy⟩ := relayout_steady hh (refill c r b n) hs' []
  rw [hx, hy]
  dsimp only
  rw [told_permuted hperm hkeys, items_refill, items_refill]
  exact ⟨rfl, kept_permuted hperm b n⟩

end Predictable

variable [Scalar α]

/-- Two containers that differ in the order of registration, and in what they owe and have counted,
make the same calls in a relayout and keep the same items, if no two items have one key. -/
theorem relayout_of_perm {h : Host α σ} {a : Answers α} {P : σ → Prop} (hh : h.Steady a P) {s s' : σ}
    (hs : P s) (hs' : P s') :
    (∀ (c : FlexBox α) (r : Registry (Item α)) (b : Bool) (n : Nat),
        r.contents.Perm c.items.contents → (c.items.contents.map Item.order).Nodup →
        let x := c.relayout h.transcribed (s, [])
        let y := { c with items := r, dirty := b, passes := n }.relayout h.transcribed (s', [])
        y.2.2 = x.2.2 ∧ y.1.items.contents.Perm x.1.items.contents) ∧
      (∀ (g : Grid α) (r : Registry (Item α)) (b : Bool) (n : Nat),
        r.contents.Perm g.items.contents → (g.items.contents.map Item.order).Nodup →
        let x := g.relayout h.transcribed (s, [])
        let y := { g with items := r, dirty := b, passes := n }.relayout h.transcribed (s', [])
        y.2.2 = x.2.2 ∧ y.1.items.contents.Perm x.1.items.contents) ∧
      ∀ (c : LayerStack α) (r : Registry Layer) (b : Bool) (n : Nat),
        r.contents.Perm c.items.contents → (c.items.contents.map Layer.z).Nodup →
        let x := c.relayout h.transcribed (s, [])
        let y := { c with items := r, dirty := b, passes := n }.relayout h.transcribed (s', [])
        y.2.2 = x.2.2 ∧ y.1.items.contents.Perm x.1.items.contents := by
  refine ⟨fun c r b n hperm hkeys => ?_, fun g r b n hperm hkeys => ?_,
    fun c r b n hperm hkeys => ?_⟩
  · exact Predictable.relayout_permuted hperm hh hkeys b n hs hs'
  · exact Predictable.relayout_permuted hperm hh hkeys b n hs hs'
  · exact Predictable.relayout_permuted hperm hh hkeys b n hs hs'

def Registry.inTurn (i j : ι) : Registry ι := (Registry.empty.add i).add j

omit [Scalar α] in
theorem Registry.inTurn_perm (i j : ι) : (inTurn j i).contents.Perm (inTurn i j).contents :=
  List.Perm.swap i j []

/-- Two items, the first of which is placed behind the second. -/
def FlexBox.crossed : FlexBox Float32 :=
  { FlexBox.trio with items := .inTurn ((Item.ofWidget ⟨1⟩).change (.order 1)) (.ofWidget ⟨2⟩) }

/-- Two layers, the first of which lies on top of the second. -/
def LayerStack.crossed : LayerStack Float32 :=
  { LayerStack.trio with items := .inTurn ⟨⟨1⟩, 1⟩ ⟨⟨2⟩, 0⟩ }

/-- Two items registered in the other order, on a recorder that has already been told something. -/
theorem relayout_of_perm_crossed :
    let r := (Recorder.empty : Recorder Float32).destroy ⟨2⟩
    let r' := { r with commands := [.restack ⟨1⟩ .raise] }
    let items := Registry.inTurn (.ofWidget ⟨2⟩) ((Item.ofWidget ⟨1⟩).change (.order 1))
    let layers := Registry.inTurn ⟨⟨2⟩, 0⟩ ⟨⟨1⟩, 1⟩
    let g : Grid Float32 := { Grid.threefold with items := FlexBox.crossed.items }
    let c₁ := FlexBox.crossed.relayout Recorder.host.transcribed (r, [])
    let c₂ := { FlexBox.crossed with items, dirty := true, passes := 7 }.relayout
      Recorder.host.transcribed (r', [])
    let g₁ := g.relayout Recorder.host.transcribed (r, [])
    let g₂ := { g with items, dirty := true, passes := 7 }.relayout
      Recorder.host.transcribed (r', [])
    let s₁ := LayerStack.crossed.relayout Recorder.host.transcribed (r, [])
    let s₂ := { LayerStack.crossed with items := layers, dirty := true, passes := 7 }.relayout
      Recorder.host.transcribed (r', [])
    Recorder.host.Steady r.answers (fun r' => r'.sizes = r.sizes ∧ r'.destroyed = r.destroyed) ∧
      (r'.sizes = r.sizes ∧ r'.destroyed = r.destroyed) ∧
      items.contents.Perm FlexBox.crossed.items.contents ∧
      (FlexBox.crossed.items.contents.map Item.order).Nodup ∧
      layers.contents.Perm LayerStack.crossed.items.contents ∧
      (LayerStack.crossed.items.contents.map Layer.z).Nodup ∧
      (c₂.2.2 = c₁.2.2 ∧ c₂.1.items.contents.Perm c₁.1.items.contents) ∧
      (g₂.2.2 = g₁.2.2 ∧ g₂.1.items.contents.Perm g₁.1.items.contents) ∧
      s₂.2.2 = s₁.2.2 ∧ s₂.1.items.contents.Perm s₁.1.items.contents :=
  have hitems := Registry.inTurn_perm ((Item.ofWidget ⟨1⟩).change (.order 1)) (.ofWidget ⟨2⟩)
  have hlayers := Registry.inTurn_perm (⟨⟨1⟩, 1⟩ : Layer) ⟨⟨2⟩, 0⟩
  have horders : (FlexBox.crossed.items.contents.map Item.order).Nodup := by decide
  have hheights : (LayerStack.crossed.items.contents.map Layer.z).Nodup := by decide
  ⟨Recorder.host_steady _, ⟨rfl, rfl⟩, hitems, horders, hlayers, hheights,
    (relayout_of_perm (Recorder.host_steady _) ⟨rfl, rfl⟩ ⟨rfl, rfl⟩).1 _ _ true 7 hitems horders,
    (relayout_of_perm (Recorder.host_steady _) ⟨rfl, rfl⟩ ⟨rfl, rfl⟩).2.1 _ _ true 7 hitems horders,
    (relayout_of_perm (Recorder.host_steady _) ⟨rfl, rfl⟩ ⟨rfl, rfl⟩).2.2 _ _ true 7 hlayers hheights⟩

end ResponsiveLayout
