import ResponsiveLayout.Proofs.Stack.Survival

/-! When a stack owes a pass. It does while it has items and no room for them, and in one more state: a
move drops the items that the host refuses and leaves the note as it is, so a stack without room that
loses its last items to a move goes on owing a pass over nothing. -/
namespace ResponsiveLayout

variable {α σ : Type}

theorem Operation.run_concat {C O : Type} [Operable C α O] (h : Host α σ) (os : List (Operation α O))
    (o : Operation α O) (c : C) (s : σ) :
    Operation.run h (os ++ [o]) c s =
      let x := Operation.run h os c s
      let y := o.perform h x.1 x.2
      (y.1.2, y.2) := by
  rw [Operation.run, List.foldlM_append]
  rfl

/-- Whether an operation moves items to one end of the stacking order. -/
def StackOperation.isMove : StackOperation → Bool
  | .bringToFront _ | .sendToBack _ => true
  | .add _ _ | .remove _ | .clear => false

/-- Whether an operation leaves a stack without items as it is. -/
def Operation.needsItems : Operation α StackOperation → Bool
  | .own (.add _ _) | .resize _ | .relayout | .settle => false
  | .own _ => true

namespace LayerStack

variable [Scalar α]

/-- A pass is owed exactly if there are items and no room for them. -/
def OwesExactly (c : LayerStack α) : Prop :=
  c.dirty = true ↔ c.items.isEmpty = false ∧ c.size.isEmpty = true

/-- The note of an owed pass is exact, but for a stack that was abandoned, which owes one over nothing. -/
structure Noted (c : LayerStack α) (abandoned : Prop) : Prop where
  exact : ¬ abandoned → c.OwesExactly
  owing : abandoned → c.dirty = true ∧ c.items.isEmpty = true

/-- Whatever the host answers, a relayout leaves the note exact. -/
theorem relayout_owesExactly (h : Host α σ) (c : LayerStack α) (s : σ) :
    (c.relayout h s).1.OwesExactly := by
  rw [relayout_eq]
  cases hready : c.isReady with
  | true =>
    -- A pass leaves the size as it was, so there still is room for what is left.
    have hroom : c.size.isEmpty = false := (isReady_iff.mp hready).2
    have hsize : (c.pass h s).1.size = c.size := rfl
    have hclean : (c.pass h s).1.dirty = false := rfl
    simp [OwesExactly, hsize, hclean, hroom]
  | false =>
    have hroom : c.items.isEmpty = false → c.size.isEmpty = true := by
      intro hitems
      simpa [isReady, hitems] using hready
    change (!c.items.isEmpty) = true ↔ c.items.isEmpty = false ∧ c.size.isEmpty = true
    rw [Bool.not_eq_true']
    exact ⟨fun hitems => ⟨hitems, hroom hitems⟩, fun hitems => hitems.1⟩

/-- An operation that can do something in a stack without items lays the stack out, or does nothing
because no pass is owed. -/
theorem perform_of_not_needsItems (h : Host α σ) {o : Operation α StackOperation}
    (ho : o.needsItems = false) (c : LayerStack α) (s : σ) :
    let x := (o.perform h c s).1.2
    x.OwesExactly ∨ (x = c ∧ c.dirty = false) := by
  cases o with
  | resize size =>
    change (c.resize h size s).1.OwesExactly ∨ ((c.resize h size s).1 = c ∧ c.dirty = false)
    rw [resize]
    split
    · next hsame =>
      simp only [Bool.and_eq_true, Bool.not_eq_true'] at hsame
      exact .inr ⟨rfl, hsame.2⟩
    · exact .inl (relayout_owesExactly h _ s)
  | relayout => exact .inl (relayout_owesExactly h c s)
  | settle =>
    change (Container.settle h c s).1.OwesExactly ∨ ((Container.settle h c s).1 = c ∧ c.dirty = false)
    rw [Container.settle]
    split
    · exact .inl (relayout_owesExactly h c s)
    · next hclean => exact .inr ⟨rfl, Bool.eq_false_iff.mpr hclean⟩
  | own o =>
    cases o with
    | add w z => exact .inl (relayout_owesExactly h _ s)
    | remove | clear | bringToFront | sendToBack => simp [Operation.needsItems] at ho

theorem lay_noted (h : Host α σ) {o : Operation α StackOperation} (ho : o.needsItems = false)
    {c : LayerStack α} {p : Prop} (hc : c.Noted p) (s : σ) : (o.perform h c s).1.2.Noted False := by
  refine ⟨fun _ => ?_, False.elim⟩
  rcases perform_of_not_needsItems h ho c s with hnow | ⟨hsame, hclean⟩
  · exact hnow
  · rw [hsame]
    refine hc.exact fun hp => ?_
    exact Bool.noConfusion (hclean.symm.trans (hc.owing hp).1)

/-- A removal or a clearing lays the stack out or does nothing, and does nothing without items. -/
theorem perform_removal (h : Host α σ) {o : StackOperation} (hmove : o.isMove = false)
    (ho : (Operation.own o : Operation α StackOperation).needsItems = true) (c : LayerStack α) (s : σ) :
    let x := ((Operation.own o).perform h c s).1.2
    (x.OwesExactly ∨ x = c) ∧ (c.items.isEmpty = true → x = c) := by
  cases o with
  | remove t =>
    change ((c.remove h t s).1.2.OwesExactly ∨ (c.remove h t s).1.2 = c) ∧
      (c.items.isEmpty = true → (c.remove h t s).1.2 = c)
    rw [remove]
    split
    · exact ⟨.inr rfl, fun _ => rfl⟩
    · next hsome =>
      -- More items than are kept were there, so the stack was not empty.
      refine ⟨.inl (relayout_owesExactly h _ s), fun hempty => absurd ?_ hsome⟩
      have hsize : c.items.size = 0 := by simpa [Registry.isEmpty, Registry.size] using hempty
      omega
  | clear =>
    change ((c.clear h s).1.OwesExactly ∨ (c.clear h s).1 = c) ∧
      (c.items.isEmpty = true → (c.clear h s).1 = c)
    rw [clear]
    split
    · exact ⟨.inr rfl, fun _ => rfl⟩
    · next hitems =>
      exact ⟨.inl (relayout_owesExactly h _ s), fun hempty => absurd hempty hitems⟩
  | add => simp [Operation.needsItems] at ho
  | bringToFront | sendToBack => simp [StackOperation.isMove] at hmove

theorem removal_noted (h : Host α σ) {o : StackOperation} (hmove : o.isMove = false)
    (ho : (Operation.own o : Operation α StackOperation).needsItems = true) {c : LayerStack α}
    {p : Prop} (hc : c.Noted p) (s : σ) : ((Operation.own o).perform h c s).1.2.Noted p := by
  obtain ⟨hdone, hnothing⟩ := perform_removal h hmove ho c s
  refine ⟨fun hp => ?_, fun hp => ?_⟩
  · rcases hdone with hnow | hsame
    · exact hnow
    · rw [hsame]
      exact hc.exact hp
  · rw [hnothing (hc.owing hp).2]
    exact hc.owing hp

/-- A move changes neither the size nor the note, and brings no items. -/
theorem perform_move (h : Host α σ) {o : StackOperation} (ho : o.isMove = true) (c : LayerStack α)
    (s : σ) :
    let x := ((Operation.own o).perform h c s).1.2
    x.dirty = c.dirty ∧ x.size = c.size ∧ (c.items.isEmpty = true → x.items.isEmpty = true) := by
  have hkept (t : Target) (m : Restack) :
      let x := (c.move h t m s).1.2
      x.dirty = c.dirty ∧ x.size = c.size ∧ (c.items.isEmpty = true → x.items.isEmpty = true) := by
    obtain ⟨items, hmove, hle⟩ := c.move_kept h t m s
    intro x
    have hx : x = { c with items } := hmove
    rw [hx]
    refine ⟨rfl, rfl, fun hempty => ?_⟩
    simp only [Registry.isEmpty, List.isEmpty_iff, ← List.length_eq_zero_iff] at hempty ⊢
    simp only [Registry.size] at hle
    omega
  cases o with
  | bringToFront t => exact hkept t .raise
  | sendToBack t => exact hkept t .lower
  | add | remove | clear => simp [StackOperation.isMove] at ho

theorem move_noted (h : Host α σ) {o : StackOperation} (ho : o.isMove = true) {c : LayerStack α}
    {p : Prop} (hc : c.Noted p) (s : σ) :
    let x := ((Operation.own o).perform h c s).1.2
    x.Noted ((c.items.isEmpty = false ∧ c.size.isEmpty = true ∧ x.items.isEmpty = true) ∨ p) := by
  intro x
  obtain ⟨hdirty, hsize, hempty⟩ := perform_move h ho c s
  change x.dirty = c.dirty at hdirty
  change x.size = c.size at hsize
  refine ⟨fun hkept => ?_, ?_⟩
  · obtain ⟨hlost, hp⟩ := not_or.mp hkept
    have hexact : c.dirty = true ↔ c.items.isEmpty = false ∧ c.size.isEmpty = true := hc.exact hp
    rw [OwesExactly, hdirty, hexact, hsize]
    -- Items that are left were there before, and no items are left only if none were there.
    constructor
    · intro ⟨hitems, hroom⟩
      exact ⟨Bool.eq_false_iff.mpr fun hnone => hlost ⟨hitems, hroom, hnone⟩, hroom⟩
    · intro ⟨hitems, hroom⟩
      exact ⟨Bool.eq_false_iff.mpr fun hnone => Bool.noConfusion (hitems.symm.trans (hempty hnone)),
        hroom⟩
  · intro hlost
    rw [hdirty]
    rcases hlost with ⟨hitems, hroom, hnone⟩ | hp
    · have hp : ¬ p := fun hp => Bool.noConfusion (hitems.symm.trans (hc.owing hp).2)
      exact ⟨(hc.exact hp).mpr ⟨hitems, hroom⟩, hnone⟩
    · exact ⟨(hc.owing hp).1, hempty (hc.owing hp).2⟩

/-- A new stack has lost its last items to a move while it had no room for them, and since then nothing
was done but what has no effect without items. -/
inductive Abandoned (h : Host α σ) (s : σ) : List (Operation α StackOperation) → Prop
  | lost {os : List (Operation α StackOperation)} {o : StackOperation} (hmove : o.isMove = true)
    (hitems : (Operation.run h os (new : LayerStack α) s).1.items.isEmpty = false)
    (hroom : (Operation.run h os (new : LayerStack α) s).1.size.isEmpty = true)
    (hlost : (Operation.run h (os ++ [.own o]) (new : LayerStack α) s).1.items.isEmpty = true) :
    Abandoned h s (os ++ [.own o])
  | since {os : List (Operation α StackOperation)} {o : Operation α StackOperation}
    (hbefore : Abandoned h s os) (ho : o.needsItems = true) : Abandoned h s (os ++ [o])

theorem not_abandoned_nil (h : Host α σ) (s : σ) : ¬ Abandoned h s [] := by
  intro habandoned
  generalize heq : [] = os at habandoned
  cases habandoned <;> simp at heq

theorem abandoned_concat {h : Host α σ} {s : σ} {os : List (Operation α StackOperation)}
    {o : Operation α StackOperation} :
    Abandoned h s (os ++ [o]) ↔
      (∃ q, o = .own q ∧ q.isMove = true ∧
        (Operation.run h os (new : LayerStack α) s).1.items.isEmpty = false ∧
        (Operation.run h os (new : LayerStack α) s).1.size.isEmpty = true ∧
        (Operation.run h (os ++ [o]) (new : LayerStack α) s).1.items.isEmpty = true) ∨
      (Abandoned h s os ∧ o.needsItems = true) := by
  constructor
  · intro habandoned
    generalize heq : os ++ [o] = os' at habandoned
    cases habandoned with
    | lost hmove hitems hroom hlost =>
      obtain ⟨rfl, ho⟩ := List.append_inj' heq rfl
      obtain rfl := List.singleton_inj.mp ho
      exact .inl ⟨_, rfl, hmove, hitems, hroom, hlost⟩
    | since hbefore hneeds =>
      obtain ⟨rfl, ho⟩ := List.append_inj' heq rfl
      obtain rfl := List.singleton_inj.mp ho
      exact .inr ⟨hbefore, hneeds⟩
  · rintro (⟨q, rfl, hmove, hitems, hroom, hlost⟩ | ⟨hbefore, ho⟩)
    · exact .lost hmove hitems hroom hlost
    · exact .since hbefore ho

theorem run_noted (h : Host α σ) (os : List (Operation α StackOperation)) (s : σ) :
    (Operation.run h os (new : LayerStack α) s).1.Noted (Abandoned h s os) := by
  -- By induction on what was done last, as that is where a stack comes to be abandoned.
  induction os using List.reverseRecOn with
  | nil =>
    have hnew : (new : LayerStack α).OwesExactly :=
      ⟨fun hdirty => Bool.noConfusion hdirty, fun hitems => Bool.noConfusion hitems.1⟩
    exact ⟨fun _ => hnew, fun habandoned => absurd habandoned (not_abandoned_nil h s)⟩
  | append_singleton os o ih =>
    let b := Operation.run h os (new : LayerStack α) s
    have hlast : (Operation.run h (os ++ [o]) (new : LayerStack α) s).1 = (o.perform h b.1 b.2).1.2 :=
      congrArg Prod.fst (Operation.run_concat h os o _ s)
    rw [abandoned_concat, hlast]
    cases o with
    | resize | relayout | settle =>
      simpa [Operation.needsItems] using lay_noted h rfl ih b.2
    | own q =>
      cases q with
      | add w z =>
        simpa [Operation.needsItems, StackOperation.isMove] using
          lay_noted h (o := .own (.add w z)) rfl ih b.2
      | remove | clear =>
        simpa [Operation.needsItems, StackOperation.isMove] using removal_noted h rfl rfl ih b.2
      | bringToFront | sendToBack =>
        simpa [Operation.needsItems, StackOperation.isMove] using move_noted h rfl ih b.2

/-- Whatever is done with a new stack and whatever the host answers: a pass is owed exactly if there are
items and no room for them, unless the last items were lost to a move for which there was no room and
nothing has made up for it since. Then a pass is owed although there is nothing to lay out. -/
theorem owes_exactly_iff (h : Host α σ) (os : List (Operation α StackOperation)) (s : σ) :
    let c := (Operation.run h os (new : LayerStack α) s).1
    ((c.dirty = true ↔ c.items.isEmpty = false ∧ c.size.isEmpty = true) ↔ ¬ Abandoned h s os) ∧
      (Abandoned h s os → c.dirty = true ∧ c.items.isEmpty = true) := by
  intro c
  have hc := run_noted h os s
  refine ⟨⟨fun hexact habandoned => ?_, hc.exact⟩, hc.owing⟩
  obtain ⟨hdirty, hempty⟩ := hc.owing habandoned
  exact Bool.noConfusion (hempty.symm.trans (hexact.mp hdirty).1)

/-- A layer whose widget is destroyed is brought to the front of a stack that has no size yet. -/
theorem owes_pass_over_nothing :
    let os : List (Operation Float32 StackOperation) :=
      [.own (.add ⟨1⟩ 0), .own (.bringToFront (.widget ⟨1⟩))]
    let c := (Operation.run Recorder.host os (new : LayerStack Float32) (Recorder.empty.destroy ⟨1⟩)).1
    c.dirty = true ∧ c.items.isEmpty = true := by
  decide

end LayerStack

end ResponsiveLayout
