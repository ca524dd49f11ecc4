import ResponsiveLayout.Proofs.Container.Passing
import ResponsiveLayout.Proofs.Flex.Frames
import ResponsiveLayout.Proofs.Flex.Steps
import ResponsiveLayout.Proofs.Host.Recorder

/-! A row or column on a recorder is never stale. Every operation changes nothing or comes down to a
relayout, and after a relayout the container has no items, owes a pass that it has no room for, or
has just told the recorder what another relayout would tell it again. -/
namespace ResponsiveLayout

variable {α σ : Type} [Scalar α]

namespace FlexBox

def measured (c : FlexBox α) (r : Recorder α) : List (Slot (Item α) × Size α) :=
  (c.items.inOrder Item.order).filterMap fun s =>
    (r.measure s.item.widget).toOption.map fun size => (s, size)

/-- The placements that a pass makes on a recorder. -/
def shown (c : FlexBox α) (r : Recorder α) : List (Command α) :=
  (c.frames (c.measured r)).map fun f => .place f.1.item.widget (.frame f.2)

def alive (c : FlexBox α) (r : Recorder α) : Registry (Item α) :=
  c.items.erase fun s => r.isDestroyed s.item.widget

theorem measured_fst (c : FlexBox α) (r : Recorder α) :
    (c.measured r).map Prod.fst = (c.alive r).inOrder Item.order := by
  have hfst : (fun s : Slot (Item α) =>
      ((r.measure s.item.widget).toOption.map fun size => (s, size)).map Prod.fst) =
        Option.guard fun s => !r.isDestroyed s.item.widget := by
    funext s
    rw [Recorder.measure, Option.guard]
    cases r.isDestroyed s.item.widget <;> rfl
  rw [measured, List.map_filterMap, hfst, List.filterMap_eq_filter, alive, Registry.inOrder_erase]

theorem length_shown (c : FlexBox α) (r : Recorder α) : (c.shown r).length = (c.alive r).size := by
  have hframes := congrArg List.length (c.frames_fst (c.measured r))
  rw [measured_fst, List.length_map, Registry.length_inOrder] at hframes
  rw [shown, List.length_map, hframes]

theorem pass_recorder (c : FlexBox α) (r : Recorder α) :
    ∃ passes, c.pass Recorder.host r =
      ({ c with items := c.alive r, dirty := false, passes },
        { r with commands := r.commands ++ c.shown r }) := by
  have hframed : ∀ f ∈ c.frames (c.measured r), r.isDestroyed f.1.item.widget = false := by
    intro f hf
    have hmem : f.1 ∈ (c.alive r).inOrder Item.order := by
      rw [← measured_fst, ← frames_fst]
      exact List.mem_map_of_mem hf
    have halive := (List.mem_filter.mp (Registry.mem_inOrder.mp hmem)).2
    rwa [Bool.not_eq_true'] at halive
  -- The widgets that cannot be measured are the destroyed ones, and none of the others is refused.
  have herase : c.items.eraseIds (((c.items.inOrder Item.order).filter fun s =>
      r.isDestroyed s.item.widget).map Slot.id) = c.alive r :=
    c.items.eraseIds_filter _ (sortByKey_perm _ _)
  have hmeasured : attempt (fun s => Recorder.host.measure s.item.widget)
      (c.items.inOrder Item.order) r =
        ((c.measured r, (c.items.inOrder Item.order).filter fun s =>
          r.isDestroyed s.item.widget), r) := Recorder.attempt_measure _ _ r
  have hplaced := Recorder.attempt_place (fun f : Slot (Item α) × Rect α => f.1.item.widget)
    (fun f => .frame f.2) hframed
  refine ⟨if (c.measured r).isEmpty then c.passes else c.passes + 1, ?_⟩
  rw [pass_eq]
  dsimp only
  rw [hmeasured]
  dsimp only
  rw [hplaced]
  dsimp only
  rw [List.map_nil, List.append_nil, herase, shown]

/-- A pass on a recorder comes to the same placements again if it is repeated. -/
theorem shown_again (c : FlexBox α) (r : Recorder α) (passes : Nat) (commands : List (Command α)) :
    { c with items := c.alive r, dirty := false, passes }.shown { r with commands } = c.shown r := by
  have hmeasured : { c with items := c.alive r, dirty := false, passes }.measured
      { r with commands } = c.measured r := by
    change ((c.alive r).inOrder Item.order).filterMap (fun s =>
      (r.measure s.item.widget).toOption.map fun size => (s, size)) = _
    rw [alive, Registry.inOrder_erase, List.filterMap_filter, measured]
    congr 1
    funext s
    rw [Recorder.measure]
    cases r.isDestroyed s.item.widget <;> rfl
  rw [shown, hmeasured]
  rfl

/-- Nothing to lay out and no pass owed. -/
structure Vacant (c : FlexBox α) : Prop where
  empty : c.items.isEmpty = true
  clean : c.dirty = false

/-- Items without room for them and a pass owed. -/
structure Owing (c : FlexBox α) : Prop where
  nonempty : c.items.isEmpty = false
  noRoom : c.size.isEmpty = true
  dirty : c.dirty = true

/-- Items with room for them, no pass owed, and as many commands recorded last as there are items,
the very ones that a relayout would record. -/
structure Current (c : FlexBox α) (r : Recorder α) : Prop where
  nonempty : c.items.isEmpty = false
  room : c.size.isEmpty = false
  clean : c.dirty = false
  size_le : c.items.size ≤ r.commands.length
  relayout : (c.relayout Recorder.host r).2.commands =
    r.commands ++ r.commands.drop (r.commands.length - c.items.size)

/-- The three states that a row or column on a recorder can be in. -/
def Fresh (c : FlexBox α) (r : Recorder α) : Prop := c.Vacant ∨ c.Owing ∨ c.Current r

theorem not_ready {c : FlexBox α} (hready : c.isReady = false) (hitems : c.items.isEmpty = false) :
    c.size.isEmpty = true := by
  rwa [isReady, hitems, Bool.false_or, Bool.not_eq_false'] at hready

theorem ready_room {c : FlexBox α} (hready : c.isReady = true) : c.size.isEmpty = false := by
  rw [isReady, Bool.not_or, Bool.and_eq_true, Bool.not_eq_true', Bool.not_eq_true'] at hready
  exact hready.2

/-- After a pass on a recorder, if any item is left, the placements recorded last are those that
another pass would record. -/
theorem pass_current {c : FlexBox α} {r : Recorder α} (hready : c.isReady = true)
    (halive : (c.alive r).isEmpty = false) :
    (c.pass Recorder.host r).1.Current (c.pass Recorder.host r).2 := by
  obtain ⟨passes, hpass⟩ := c.pass_recorder r
  rw [hpass]
  have hroom := ready_room hready
  let after : FlexBox α := { c with items := c.alive r, dirty := false, passes }
  have hafter : after.isReady = true := by
    change (!((c.alive r).isEmpty || c.size.isEmpty)) = true
    rw [halive, hroom]
    rfl
  obtain ⟨passes', hagain⟩ := after.pass_recorder { r with commands := r.commands ++ c.shown r }
  refine ⟨halive, hroom, rfl, ?_, ?_⟩
  · change (c.alive r).size ≤ (r.commands ++ c.shown r).length
    rw [List.length_append, length_shown]
    omega
  · change (after.relayout Recorder.host _).2.commands = _
    rw [relayout_eq, if_pos hafter, hagain, shown_again]
    dsimp only
    -- The items left are as many as the placements of the pass that is over.
    rw [List.drop_left']
    rw [List.length_append, length_shown]
    omega

/-- A relayout leads to one of the three states, whatever the state before. -/
theorem relayout_fresh (c : FlexBox α) (r : Recorder α) :
    (c.relayout Recorder.host r).1.Fresh (c.relayout Recorder.host r).2 := by
  rw [relayout_eq]
  cases hready : c.isReady with
  | false =>
    cases hitems : c.items.isEmpty with
    | true => exact .inl ⟨hitems, rfl⟩
    | false => exact .inr (.inl ⟨hitems, not_ready hready hitems, rfl⟩)
  | true =>
    rw [if_pos rfl]
    cases halive : (c.alive r).isEmpty with
    | true =>
      -- The pass has dropped every item.
      obtain ⟨passes, hpass⟩ := c.pass_recorder r
      rw [hpass]
      exact .inl ⟨halive, rfl⟩
    | false => exact .inr (.inr (pass_current hready halive))

theorem perform_fresh (o : Operation α (FlexOperation α)) {c : FlexBox α} {r : Recorder α}
    (hf : c.Fresh r) :
    (o.perform Recorder.host c r).1.2.Fresh (o.perform Recorder.host c r).2 := by
  have hstate : ((o.perform Recorder.host c r).1.2, (o.perform Recorder.host c r).2) =
      layOut Recorder.host c (laidOut? o c) r := congrFun (perform_eq Recorder.host o c) r
  cases hlaid : laidOut? o c with
  | none =>
    rw [hlaid] at hstate
    rw [(Prod.mk.inj hstate).1, (Prod.mk.inj hstate).2]
    exact hf
  | some c' =>
    have hfresh := relayout_fresh c' r
    rw [hlaid] at hstate
    change _ = c'.relayout Recorder.host r at hstate
    rw [← hstate] at hfresh
    exact hfresh

theorem run_fresh (os : List (Operation α (FlexOperation α))) {c : FlexBox α} {r : Recorder α}
    (hf : c.Fresh r) :
    (Operation.run Recorder.host os c r).1.Fresh (Operation.run Recorder.host os c r).2 := by
  induction os generalizing c r with
  | nil => exact hf
  | cons o os ih => exact ih (perform_fresh o hf)

/-- In none of the three states is there a pass that could be made. -/
theorem Fresh.settle_eq {c : FlexBox α} {r : Recorder α} (hf : c.Fresh r) (k : Host α σ) :
    Container.settle k c = pure c := by
  rcases hf with hv | ho | hcur
  · exact if_neg (Bool.eq_false_iff.mp hv.clean)
  · -- A pass is owed, but the relayout only owes it again.
    have hready : c.isReady = false := by
      rw [isReady, ho.noRoom, Bool.or_true]
      rfl
    have howed : ({ c with dirty := !c.items.isEmpty } : FlexBox α) = c := by
      rw [ho.nonempty]
      change { c with dirty := true } = c
      rw [← ho.dirty]
    change (if c.dirty then c.relayout k else pure c) = _
    rw [if_pos ho.dirty, relayout_eq, hready, howed]
    rfl
  · exact if_neg (Bool.eq_false_iff.mp hcur.clean)

/-- Whatever is done with a row or column on a recorder, it is in exactly one of the three states
afterwards, and laying it out if a pass is owed calls no host. -/
theorem never_stale (config : FlexConfig α) (os : List (Operation α (FlexOperation α)))
    (r : Recorder α) :
    let x := Operation.run Recorder.host os (FlexBox.new config) r
    (x.1.Vacant ∨ x.1.Owing ∨ x.1.Current x.2) ∧
      ¬ (x.1.Vacant ∧ x.1.Owing) ∧ ¬ (x.1.Vacant ∧ x.1.Current x.2) ∧
      ¬ (x.1.Owing ∧ x.1.Current x.2) ∧
      ∀ (σ : Type) (k : Host α σ), Container.settle k x.1 = pure x.1 := by
  intro x
  have hf : x.1.Fresh x.2 := run_fresh os (.inl ⟨rfl, rfl⟩)
  refine ⟨hf, ?_, ?_, ?_, fun σ k => hf.settle_eq k⟩
  · rintro ⟨hv, ho⟩
    exact Bool.noConfusion (hv.clean.symm.trans ho.dirty)
  · rintro ⟨hv, hcur⟩
    exact Bool.noConfusion (hv.empty.symm.trans hcur.nonempty)
  · rintro ⟨ho, hcur⟩
    exact Bool.noConfusion (ho.dirty.symm.trans hcur.clean)

end FlexBox

end ResponsiveLayout
