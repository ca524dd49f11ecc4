import ResponsiveLayout.Host.Recording
import ResponsiveLayout.Proofs.Container.Visits
import ResponsiveLayout.Proofs.Stack.Heights

/-! Requests for items that are not there. Rows and grids stay as they were, and so do stacks that are asked
to remove something. A stack that is asked to move something makes room at the limit of the heights before
it knows whether there is something to move, so heights can change, though the order does not. -/
namespace ResponsiveLayout

variable {α σ ι : Type}

/-- Whether a target means none of the items, which show some widgets. -/
def Target.Misses (t : Target) (r : Registry ι) (widget : ι → Widget) : Prop :=
  ∀ s ∈ r.slots, t.hits s.id (widget s.item) = false

instance (t : Target) (r : Registry ι) (widget : ι → Widget) : Decidable (t.Misses r widget) :=
  inferInstanceAs (Decidable (∀ s ∈ r.slots, t.hits s.id (widget s.item) = false))

/-- A request for items that are not in a row, and the answer to it. -/
inductive FlexBox.Unmatched (c : FlexBox α) : FlexOperation α → Answer α → Prop
  | remove {t : Target} (ht : t.Misses c.items Item.widget) : Unmatched c (.remove t) (.removed 0)
  | update {id : ItemId} {f : Item α → Item α} (hid : ∀ s ∈ c.items.slots, s.id ≠ id) :
    Unmatched c (.update id f) (.found false)

inductive Grid.Unmatched (g : Grid α) : GridOperation α → Answer α → Prop
  | remove {t : Target} (ht : t.Misses g.items Item.widget) : Unmatched g (.remove t) (.removed 0)

inductive LayerStack.Unmatched (c : LayerStack α) : StackOperation → Answer α → Prop
  | remove {t : Target} (ht : t.Misses c.items Layer.widget) : Unmatched c (.remove t) (.removed 0)
  | bringToFront {t : Target} (ht : t.Misses c.items Layer.widget) :
    Unmatched c (.bringToFront t) (.found false)
  | sendToBack {t : Target} (ht : t.Misses c.items Layer.widget) :
    Unmatched c (.sendToBack t) (.found false)

section

variable [Scalar α]

theorem FlexBox.perform_unmatched (h : Host α σ) {c : FlexBox α} {o : FlexOperation α} {a : Answer α}
    (ho : c.Unmatched o a) : c.perform h o = pure (a, c) := by
  cases ho with
  | remove ht =>
    have hremove : c.remove h _ = pure (0, c) := if_pos (Registry.size_sub_erase ht)
    rw [perform, hremove]
    rfl
  | update hid =>
    rw [perform, update, Registry.get?_of_forall_ne hid]
    rfl

theorem Grid.perform_unmatched (h : Host α σ) {g : Grid α} {o : GridOperation α} {a : Answer α}
    (ho : g.Unmatched o a) : g.perform h o = pure (a, g) := by
  cases ho with
  | remove ht =>
    have hremove : g.remove h _ = pure (0, g) := if_pos (Registry.size_sub_erase ht)
    rw [perform, hremove]
    rfl

end

namespace LayerStack

/-- Whether an operation is a move towards a limit that the heights in use have reached. -/
def Renumbers (c : LayerStack α) : StackOperation → Prop
  | .bringToFront _ => top c.items = Int32.maxValue
  | .sendToBack _ => bottom c.items = Int32.minValue
  | .add _ _ | .remove _ | .clear => False

/-- The stack with its heights replaced by places. -/
def renumbered (c : LayerStack α) : LayerStack α := { c with items := renumber c.items }

/-- A stack that differs from another one in nothing but the heights, and not in the order. -/
structure Relevelled (c c' : LayerStack α) : Prop where
  labels : c'.items.slots.map Slot.label = c.items.slots.map Slot.label
  order : (c'.items.inOrder Layer.z).map Slot.label = (c.items.inOrder Layer.z).map Slot.label
  nextIndex_eq : c'.items.nextIndex = c.items.nextIndex
  rest : c' = { c with items := c'.items }

section

variable {c : LayerStack α}

theorem relevelled_renumbered (hsize : c.items.size < 2 ^ 31) : c.Relevelled c.renumbered := by
  constructor
  · exact labels_relevel c.items (rank c.items)
  · change ((relevel c.items (rank c.items)).inOrder Layer.z).map Slot.label = _
    rw [inOrder_relevel, sortByKey_rank hsize, List.map_map]
    rfl
  · rfl
  · rfl

theorem z?_renumbered {s : Slot Layer} (hs : s ∈ c.items.slots) :
    c.renumbered.z? s.id = some (rank c.items s) := by
  have hmem : s.atHeight (rank c.items) ∈ c.renumbered.items.slots := List.mem_map_of_mem hs
  have hget : c.renumbered.items.get? s.id = some (s.atHeight (rank c.items)).item :=
    Registry.get?_of_mem hmem
  rw [z?, hget]
  rfl

/-- At a limit, renumbering can be seen. -/
theorem exists_z?_renumbered_ne {m : Restack} (hlimit : c.AtLimit m) (hsize : c.items.size < 2 ^ 31) :
    ∃ id, c.renumbered.z? id ≠ c.z? id := by
  obtain ⟨s, hs, hz⟩ := exists_mem_of_extreme_eq_limit hlimit
  refine ⟨s.id, fun hsame => ?_⟩
  rw [z?_renumbered hs, z?, Registry.get?_of_mem hs, Option.map_some, hz] at hsame
  exact rank_ne_limit hsize hs m (Option.some_inj.mp hsame)

theorem Unmatched.exists_z?_renumbered_ne {o : StackOperation} {a : Answer α} (ho : c.Unmatched o a)
    (hlimit : c.Renumbers o) (hsize : c.items.size < 2 ^ 31) :
    ∃ id, c.renumbered.z? id ≠ c.z? id := by
  cases ho with
  | remove => exact hlimit.elim
  | bringToFront => exact LayerStack.exists_z?_renumbered_ne (m := .raise) hlimit hsize
  | sendToBack => exact LayerStack.exists_z?_renumbered_ne (m := .lower) hlimit hsize

theorem move_of_misses (h : Host α σ) {t : Target} (ht : t.Misses c.items Layer.widget) (m : Restack) :
    c.move h t m = pure (false, if c.AtLimit m then c.renumbered else c) := by
  have hnone : (relevel c.items (c.levels m)).slots.filter (meant t) = [] := by
    rw [filter_meant_relevel, List.map_eq_nil_iff, List.filter_eq_nil_iff]
    intro s hs hmeant
    exact Bool.noConfusion ((ht s hs).symm.trans hmeant)
  have hlevels : { c with items := relevel c.items (c.levels m) } =
      if c.AtLimit m then c.renumbered else c := by
    by_cases hlimit : c.AtLimit m
    · rw [if_pos hlimit, levels, if_pos hlimit]
      rfl
    · rw [if_neg hlimit, relevel_levels hlimit]
  rw [move_eq, ← hlevels]
  exact if_pos (List.isEmpty_iff.mpr hnone)

/-- At a limit, a move renumbers the stack even if it means nothing. -/
theorem tell_move_of_misses (h : Host α σ) {t : Target} (ht : t.Misses c.items Layer.widget)
    (m : Restack) :
    (¬ c.AtLimit m → tell (α := α) .found (c.move h t m) = pure (.found false, c)) ∧
      (c.AtLimit m → tell (α := α) .found (c.move h t m) = pure (.found false, c.renumbered)) := by
  rw [move_of_misses h ht m]
  constructor
  · intro hroom
    rw [if_neg hroom]
    rfl
  · intro hlimit
    rw [if_pos hlimit]
    rfl

variable [Scalar α]

theorem perform_unmatched (h : Host α σ) {o : StackOperation} {a : Answer α} (ho : c.Unmatched o a) :
    (¬ c.Renumbers o → c.perform h o = pure (a, c)) ∧
      (c.Renumbers o → c.perform h o = pure (a, c.renumbered)) := by
  cases ho with
  | remove ht =>
    have hremove : c.remove h _ = pure (0, c) := if_pos (Registry.size_sub_erase ht)
    refine ⟨fun _ => ?_, False.elim⟩
    rw [perform, hremove]
    rfl
  | bringToFront ht => exact tell_move_of_misses h ht .raise
  | sendToBack ht => exact tell_move_of_misses h ht .lower

omit [Scalar α] in
theorem Unmatched.renumbered {o : StackOperation} {a : Answer α} (ho : c.Unmatched o a) :
    c.renumbered.Unmatched o a := by
  have hmisses {t : Target} (ht : t.Misses c.items Layer.widget) :
      t.Misses c.renumbered.items Layer.widget := by
    intro s hs
    obtain ⟨u, hu, rfl⟩ := List.mem_map.mp hs
    exact ht u hu
  cases ho with
  | remove ht => exact .remove (hmisses ht)
  | bringToFront ht => exact .bringToFront (hmisses ht)
  | sendToBack ht => exact .sendToBack (hmisses ht)

omit [Scalar α] in
theorem not_renumbers_renumbered (hsize : c.items.size < 2 ^ 31) (o : StackOperation) :
    ¬ c.renumbered.Renumbers o := by
  cases o with
  | bringToFront => exact extreme_relevel_rank hsize .raise
  | sendToBack => exact extreme_relevel_rank hsize .lower
  | add | remove | clear => exact id

theorem run_own_cons (h : Host α σ) {o : StackOperation} {a : Answer α} {c' : LayerStack α}
    (ho : c.perform h o = pure (a, c')) (os : List StackOperation) :
    Operation.run h ((o :: os).map .own) c = Operation.run h (os.map .own) c' := by
  have hperform : (Operation.own o).perform h c = pure (a, c') := ho
  rw [List.map_cons, Operation.run, List.foldlM_cons, hperform]
  rfl

theorem run_of_not_renumbers (h : Host α σ) {os : List StackOperation}
    (hos : ∀ o ∈ os, ∃ a : Answer α, c.Unmatched o a) (hroom : ∀ o ∈ os, ¬ c.Renumbers o) :
    Operation.run h (os.map .own) c = pure c := by
  induction os with
  | nil => rfl
  | cons o os ih =>
    obtain ⟨⟨a, ho⟩, hos⟩ := List.forall_mem_cons.mp hos
    obtain ⟨hnow, hlater⟩ := List.forall_mem_cons.mp hroom
    rw [run_own_cons h ((perform_unmatched h ho).1 hnow)]
    exact ih hos hlater

/-- However many requests mean nothing, the heights are replaced once at most. -/
theorem run_unmatched (h : Host α σ) (hsize : c.items.size < 2 ^ 31) {os : List StackOperation}
    (hos : ∀ o ∈ os, ∃ a : Answer α, c.Unmatched o a) :
    Operation.run h (os.map .own) c = pure c ∨
      Operation.run h (os.map .own) c = pure c.renumbered := by
  induction os with
  | nil => exact .inl rfl
  | cons o os ih =>
    obtain ⟨⟨a, ho⟩, hos⟩ := List.forall_mem_cons.mp hos
    by_cases hlimit : c.Renumbers o
    · -- From now on no limit is reached, so the rest of the run changes nothing.
      right
      rw [run_own_cons h ((perform_unmatched h ho).2 hlimit)]
      apply run_of_not_renumbers
      · intro o ho
        obtain ⟨a, ho⟩ := hos o ho
        exact ⟨a, ho.renumbered⟩
      · intro o _
        exact not_renumbers_renumbered hsize o
    · rw [run_own_cons h ((perform_unmatched h ho).1 hlimit)]
      exact ih hos

end

end LayerStack

variable [Scalar α]

/-- Requests for items that are not there are answered with zero or false, without a call to the host. They
change nothing, except that a move towards a limit that the heights in use have reached replaces the heights
of a stack by places. That can be seen, but the order stays. -/
theorem unmatched_changes_at_most_heights (h : Host α σ) :
    (∀ (c : FlexBox α) (o : FlexOperation α) (a : Answer α), c.Unmatched o a →
        c.perform h o = pure (a, c)) ∧
      (∀ (g : Grid α) (o : GridOperation α) (a : Answer α), g.Unmatched o a →
        g.perform h o = pure (a, g)) ∧
      ∀ (c : LayerStack α) (o : StackOperation) (a : Answer α), c.Unmatched o a →
        (¬ c.Renumbers o → c.perform h o = pure (a, c)) ∧
          (c.Renumbers o → c.perform h o = pure (a, c.renumbered) ∧
            (c.items.size < 2 ^ 31 →
              c.Relevelled c.renumbered ∧ ∃ id, c.renumbered.z? id ≠ c.z? id)) := by
  refine ⟨fun c o a ho => ?_, fun g o a ho => ?_, fun c o a ho => ⟨?_, ?_⟩⟩
  · exact FlexBox.perform_unmatched h ho
  · exact Grid.perform_unmatched h ho
  · exact (LayerStack.perform_unmatched h ho).1
  · intro hlimit
    refine ⟨(LayerStack.perform_unmatched h ho).2 hlimit, fun hsize => ?_⟩
    exact ⟨LayerStack.relevelled_renumbered hsize, ho.exists_z?_renumbered_ne hlimit hsize⟩

/-- A stack of one layer at the upper limit of the heights. -/
def LayerStack.brimming : LayerStack Float32 :=
  { (LayerStack.new : LayerStack Float32) with items := Registry.empty.add ⟨⟨1⟩, Int32.maxValue⟩ }

/-- Requests for a widget that no container shows. -/
theorem unmatched_changes_at_most_heights_fourth :
    (FlexBox.trio.Unmatched (.remove (.widget ⟨4⟩)) (.removed 0) ∧
        FlexBox.trio.perform Recorder.host (.remove (.widget ⟨4⟩)) = pure (.removed 0, FlexBox.trio)) ∧
      (Grid.threefold.Unmatched (.remove (.widget ⟨4⟩)) (.removed 0) ∧
        Grid.threefold.perform Recorder.host (.remove (.widget ⟨4⟩)) = pure (.removed 0, Grid.threefold)) ∧
      (LayerStack.trio.Unmatched (.sendToBack (.widget ⟨4⟩)) (.found false) ∧
        ¬ LayerStack.trio.Renumbers (.sendToBack (.widget ⟨4⟩)) ∧
        LayerStack.trio.perform Recorder.host (.sendToBack (.widget ⟨4⟩)) =
          pure (.found false, LayerStack.trio)) ∧
      LayerStack.brimming.Unmatched (.bringToFront (.widget ⟨4⟩)) (.found false) ∧
        LayerStack.brimming.Renumbers (.bringToFront (.widget ⟨4⟩)) ∧
        LayerStack.brimming.items.size < 2 ^ 31 ∧
        LayerStack.brimming.perform Recorder.host (.bringToFront (.widget ⟨4⟩)) =
          pure (.found false, LayerStack.brimming.renumbered) ∧
        LayerStack.brimming.Relevelled LayerStack.brimming.renumbered ∧
        ∃ id, LayerStack.brimming.renumbered.z? id ≠ LayerStack.brimming.z? id := by
  have hflex : FlexBox.trio.Unmatched (.remove (.widget ⟨4⟩)) (.removed 0) := by
    apply FlexBox.Unmatched.remove
    decide +kernel
  have hgrid : Grid.threefold.Unmatched (.remove (.widget ⟨4⟩)) (.removed 0) := by
    apply Grid.Unmatched.remove
    decide +kernel
  have hstack : LayerStack.trio.Unmatched (.sendToBack (.widget ⟨4⟩)) (.found false) := by
    apply LayerStack.Unmatched.sendToBack
    decide +kernel
  have hbrim : LayerStack.brimming.Unmatched (.bringToFront (.widget ⟨4⟩)) (.found false) := by
    apply LayerStack.Unmatched.bringToFront
    decide +kernel
  have habove : ¬ LayerStack.trio.Renumbers (.sendToBack (.widget ⟨4⟩)) := by
    change LayerStack.bottom LayerStack.trio.items ≠ Int32.minValue
    decide
  have hlimit : LayerStack.brimming.Renumbers (.bringToFront (.widget ⟨4⟩)) := by
    change LayerStack.top LayerStack.brimming.items = Int32.maxValue
    decide
  have hsize : LayerStack.brimming.items.size < 2 ^ 31 := by decide
  obtain ⟨hrow, hcells, hlayers⟩ := unmatched_changes_at_most_heights (Recorder.host (α := Float32))
  refine ⟨⟨hflex, hrow _ _ _ hflex⟩, ⟨hgrid, hcells _ _ _ hgrid⟩, ?_, hbrim, hlimit, hsize, ?_⟩
  · exact ⟨hstack, habove, (hlayers _ _ _ hstack).1 habove⟩
  · obtain ⟨hrequest, hseen⟩ := (hlayers _ _ _ hbrim).2 hlimit
    exact ⟨hrequest, hseen hsize⟩

/-- A widget that a new stack does not show is brought to the front of the one layer that was added. -/
theorem unmatched_move_renumbers :
    let c := (Operation.run Recorder.host [.own (.add ⟨1⟩ Int32.maxValue)] (LayerStack.new : LayerStack Float32)
      Recorder.empty).1
    let x := c.bringToFront Recorder.host (.widget ⟨2⟩) Recorder.empty
    x.1.1 = false ∧ c.z? ⟨0⟩ = some Int32.maxValue ∧ x.1.2.z? ⟨0⟩ = some 0 := by
  decide

end ResponsiveLayout
