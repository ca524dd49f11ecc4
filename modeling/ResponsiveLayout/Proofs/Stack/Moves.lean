import ResponsiveLayout.Proofs.Container.Passing
import ResponsiveLayout.Proofs.Host.Stacking
import ResponsiveLayout.Proofs.Stack.Heights

/-! What becomes of a stack and a recorder. A pass puts the widgets that are alive on top of everything
else, in the order of the stack. A move takes what the target means to one end of the stack and its
widget to that end of the recorder's order. All else that an operation does is a relayout. -/
namespace ResponsiveLayout

variable {α σ : Type}

namespace LayerStack

def alive (c : LayerStack α) (r : Recorder α) : Registry Layer :=
  c.items.erase fun s => r.isDestroyed s.item.widget

def meantWidgets (c : LayerStack α) (t : Target) : List Widget :=
  (c.items.slots.filter (meant t)).map fun s => s.item.widget

/-- The widgets of the other items, from bottom to top. -/
def otherWidgets (c : LayerStack α) (t : Target) : List Widget :=
  ((c.items.inOrder Layer.z).filter (!meant t ·)).map fun s => s.item.widget

/-- The stack's widgets as they lie in the recorder. -/
def hostOrder (c : LayerStack α) (r : Recorder α) : List Widget :=
  r.stacking.filter (· ∈ c.stackingOrder)

section

variable (c : LayerStack α) (r : Recorder α)

theorem stackingOrder_alive :
    ((c.alive r).inOrder Layer.z).map (fun s => s.item.widget) =
      c.stackingOrder.filter (!r.isDestroyed ·) := by
  rw [alive, Registry.inOrder_erase, stackingOrder, List.filter_map]
  rfl

theorem mem_stackingOrder {w : Widget} :
    w ∈ c.stackingOrder ↔ ∃ s ∈ c.items.slots, s.item.widget = w := by
  rw [stackingOrder, List.mem_map]
  exact exists_congr fun s => and_congr_left fun _ => Registry.mem_inOrder

theorem stackingOrder_eq_nil : c.stackingOrder = [] ↔ c.items.isEmpty = true := by
  rw [stackingOrder, List.map_eq_nil_iff, ← List.length_eq_zero_iff, Registry.length_inOrder,
    Registry.isEmpty, List.isEmpty_iff_length_eq_zero]
  rfl

theorem showLayer_recorder [Scalar α] (s : Slot Layer) :
    showLayer Recorder.host c s r =
      Recorder.ifAlive s.item.widget (Recorder.put c.bounds s.item.widget) r := by
  let p : Placement α := .frame c.bounds
  cases hw : r.isDestroyed s.item.widget with
  | true =>
    have hplace : Recorder.host.place s.item.widget p r = (.error (.destroyed s.item.widget), r) :=
      if_pos hw
    rw [showLayer, bind_apply, hplace]
    exact (if_pos hw).symm
  | false =>
    have hwidget := Bool.eq_false_iff.mp hw
    have hplace : Recorder.host.place s.item.widget p r = (.ok (), r.place s.item.widget p) :=
      if_neg hwidget
    rw [showLayer, bind_apply, hplace]
    exact (if_neg hwidget).trans (if_neg hwidget).symm

theorem pass_recorder [Scalar α] :
    c.pass Recorder.host r =
      ({ c with items := c.alive r, dirty := false, passes := c.passes + 1 },
        (c.stackingOrder.filter (!r.isDestroyed ·)).foldl (fun r w => r.put c.bounds w) r) := by
  let x := attempt (showLayer Recorder.host c) (c.items.inOrder Layer.z) r
  obtain ⟨hrefused, hstate⟩ : x.1.2 = (c.items.inOrder Layer.z).filter
        (fun s => r.isDestroyed s.item.widget) ∧
      x.2 = ((c.items.inOrder Layer.z).filter fun s => !r.isDestroyed s.item.widget).foldl
        (fun r s => r.put c.bounds s.item.widget) r := by
    have hcall : showLayer Recorder.host c = fun s =>
        Recorder.ifAlive s.item.widget (Recorder.put c.bounds s.item.widget) := by
      funext s r
      exact c.showLayer_recorder r s
    change (attempt (showLayer Recorder.host c) _ r).1.2 = _ ∧
      (attempt (showLayer Recorder.host c) _ r).2 = _
    rw [hcall]
    exact Recorder.attempt_ifAlive (fun s : Slot Layer => s.item.widget)
      (fun s r => r.destroyed_put s.item.widget c.bounds) _ r
  have hitems : c.items.eraseIds (x.1.2.map Slot.id) = c.alive r := by
    rw [hrefused]
    exact Registry.eraseIds_filter _ _ (sortByKey_perm _ _)
  change (({ c with
    items := c.items.eraseIds (x.1.2.map Slot.id)
    dirty := false
    passes := c.passes + 1 } : LayerStack α), x.2) = _
  rw [hitems, hstate, stackingOrder, List.filter_map, List.foldl_map]
  rfl

end

section

variable {c : LayerStack α} {t : Target} {w : Widget}

theorem mem_meantWidgets :
    w ∈ c.meantWidgets t ↔ ∃ s ∈ c.items.slots, meant t s = true ∧ s.item.widget = w := by
  rw [meantWidgets, List.mem_map]
  refine exists_congr fun s => ?_
  rw [List.mem_filter, and_assoc]

theorem mem_otherWidgets :
    w ∈ c.otherWidgets t ↔ ∃ s ∈ c.items.slots, meant t s = false ∧ s.item.widget = w := by
  rw [otherWidgets, List.mem_map]
  refine exists_congr fun s => ?_
  rw [List.mem_filter, and_assoc, Bool.not_eq_true']
  exact and_congr_left fun _ => Registry.mem_inOrder

/-- All items that one target means show one widget. -/
theorem eq_of_mem_meantWidgets (hw : w ∈ c.meantWidgets t) {u : Widget}
    (hu : u ∈ c.meantWidgets t) : u = w := by
  obtain ⟨s, hs, hmeant, rfl⟩ := mem_meantWidgets.mp hw
  obtain ⟨s', hs', hmeant', rfl⟩ := mem_meantWidgets.mp hu
  cases t with
  | widget v =>
    have hv : v = s.item.widget := of_decide_eq_true hmeant
    have hv' : v = s'.item.widget := of_decide_eq_true hmeant'
    exact hv'.symm.trans hv
  | item id =>
    have hid : id = s.id := of_decide_eq_true hmeant
    have hid' : id = s'.id := of_decide_eq_true hmeant'
    rw [List.inj_on_of_nodup_map c.items.nodup hs' hs (hid'.symm.trans hid)]

theorem exists_meantWidgets_eq (hw : w ∈ c.meantWidgets t) :
    ∃ n, c.meantWidgets t = List.replicate (n + 1) w := by
  obtain ⟨n, hn⟩ := Nat.exists_eq_succ_of_ne_zero (List.length_pos_of_mem hw).ne'
  exact ⟨n, List.eq_replicate_iff.mpr ⟨hn, fun u hu => eq_of_mem_meantWidgets hw hu⟩⟩

theorem not_meant_of_nil (hnil : c.meantWidgets t = []) {s : Slot Layer} (hs : s ∈ c.items.slots) :
    meant t s = false := by
  by_contra hmeant
  have hmem : s.item.widget ∈ c.meantWidgets t :=
    mem_meantWidgets.mpr ⟨s, hs, Bool.not_eq_false _ ▸ hmeant, rfl⟩
  rw [hnil] at hmem
  exact List.not_mem_nil hmem

theorem otherWidgets_of_nil (hnil : c.meantWidgets t = []) : c.otherWidgets t = c.stackingOrder := by
  refine congrArg (List.map _) (List.filter_eq_self.mpr fun s hs => ?_)
  rw [not_meant_of_nil hnil (Registry.mem_inOrder.mp hs)]
  rfl

theorem restack_of_nil (h : Host α σ) (hnil : c.meantWidgets t = []) (z : Int32) (m : Restack) :
    c.restack h t z m = pure (false, c) :=
  if_pos (List.isEmpty_iff.mpr (List.map_eq_nil_iff.mp hnil))

theorem filter_otherWidgets (hw : w ∈ c.meantWidgets t) :
    (c.otherWidgets t).filter (· ≠ w) = c.stackingOrder.filter (· ≠ w) := by
  rw [otherWidgets, stackingOrder, List.filter_map, List.filter_map, List.filter_filter]
  refine congrArg (List.map _) (List.filter_congr fun s hs => ?_)
  by_cases hsw : s.item.widget = w
  · rw [Function.comp_apply, decide_eq_false (not_not_intro hsw), Bool.false_and]
  · have hmeant : meant t s = false := by
      by_contra hmeant
      have hmem := mem_meantWidgets.mpr
        ⟨s, Registry.mem_inOrder.mp hs, Bool.not_eq_false _ ▸ hmeant, rfl⟩
      exact hsw (eq_of_mem_meantWidgets hw hmem)
    rw [hmeant]
    exact Bool.and_true _

/-- Every other widget of the stack is shown by other items only. -/
theorem mem_otherWidgets_of_ne (hw : w ∈ c.meantWidgets t) {u : Widget} (hu : u ≠ w) :
    u ∈ c.otherWidgets t ↔ u ∈ c.stackingOrder := by
  have hmem : u ∈ (c.otherWidgets t).filter (· ≠ w) ↔ u ∈ c.stackingOrder.filter (· ≠ w) := by
    rw [filter_otherWidgets hw]
  rwa [List.mem_filter, List.mem_filter, decide_eq_true hu, and_iff_left rfl,
    and_iff_left rfl] at hmem

theorem mem_stackingOrder_of_mem_otherWidgets (hw : w ∈ c.otherWidgets t) : w ∈ c.stackingOrder := by
  obtain ⟨s, hs, -, hsw⟩ := mem_otherWidgets.mp hw
  exact c.mem_stackingOrder.mpr ⟨s, hs, hsw⟩

theorem mem_stackingOrder_of_mem_meantWidgets (hw : w ∈ c.meantWidgets t) : w ∈ c.stackingOrder := by
  obtain ⟨s, hs, -, hsw⟩ := mem_meantWidgets.mp hw
  exact c.mem_stackingOrder.mpr ⟨s, hs, hsw⟩

end

/-- A widget of the stack that is moved in the recorder goes to the end of the stack's widgets there. -/
theorem hostOrder_moveTo {m : Restack} {c c' : LayerStack α} {r r' : Recorder α} {w : Widget}
    (hw : w ∈ c.stackingOrder) (hsame : ∀ u, u ∈ c'.stackingOrder ↔ u ∈ c.stackingOrder)
    (hstacking : r'.stacking = Recorder.moveTo m w r.stacking) :
    hostOrder c' r' = m.attach [w] ((hostOrder c r).filter (· ≠ w)) := by
  have hothers : (r.stacking.filter (· ≠ w)).filter (· ∈ c'.stackingOrder) =
      (hostOrder c r).filter (· ≠ w) := by
    rw [hostOrder, List.filter_comm]
    refine congrArg (List.filter _) (List.filter_congr fun u _ => ?_)
    exact decide_eq_decide.mpr (hsame u)
  have hself : [w].filter (· ∈ c'.stackingOrder) = [w] := by
    rw [List.filter_singleton, decide_eq_true ((hsame w).mpr hw), cond_true]
  rw [hostOrder, hstacking]
  cases m with
  | raise => rw [Recorder.moveTo, List.filter_append, hothers, hself, Restack.attach]
  | lower =>
    rw [Recorder.moveTo, ← List.singleton_append, List.filter_append, hothers, hself, Restack.attach]

theorem hostOrder_moved {m : Restack} {t : Target} {c c' : LayerStack α} {r r' : Recorder α}
    {w : Widget} {n : Nat} (hw : w ∈ c.meantWidgets t)
    (horder : c'.stackingOrder = m.attach (List.replicate (n + 1) w) (c.otherWidgets t))
    (hstacking : r'.stacking = Recorder.moveTo m w r.stacking) :
    hostOrder c' r' = m.attach [w] ((hostOrder c r).filter (· ≠ w)) := by
  have hin : w ∈ c.stackingOrder := mem_stackingOrder_of_mem_meantWidgets hw
  refine hostOrder_moveTo hin (fun u => ?_) hstacking
  rw [horder, Restack.mem_attach, List.mem_replicate, and_iff_right n.succ_ne_zero]
  by_cases hu : u = w
  · rw [hu]
    exact iff_of_true (.inl rfl) hin
  · rw [or_iff_right hu, mem_otherWidgets_of_ne hw hu]

variable [Scalar α]

/-- After a pass the stack's widgets are those that are alive, each fills the stack, and in the recorder
they lie in the order of the stack, where the topmost item of a widget counts. -/
theorem pass_stacked (c : LayerStack α) (r : Recorder α) :
    let x := c.pass Recorder.host r
    x.1.stackingOrder = c.stackingOrder.filter (!r.isDestroyed ·) ∧
      hostOrder x.1 x.2 = x.1.stackingOrder.dedup ∧
      x.2.destroyed = r.destroyed ∧ ∀ w ∈ x.1.stackingOrder, x.2.frame? w = some c.bounds := by
  intro x
  have hx : x = c.pass Recorder.host r := rfl
  rw [pass_recorder] at hx
  have horder : x.1.stackingOrder = c.stackingOrder.filter (!r.isDestroyed ·) := by
    rw [hx]
    exact c.stackingOrder_alive r
  have hrecorder : x.2 = x.1.stackingOrder.foldl (fun r w => r.put c.bounds w) r := by
    rw [horder, hx]
  refine ⟨horder, ?_, ?_, fun w hw => ?_⟩
  · have hbelow : (r.stacking.filter (· ∉ x.1.stackingOrder)).filter (· ∈ x.1.stackingOrder) = [] := by
      rw [List.filter_eq_nil_iff]
      intro w hw hmem
      exact of_decide_eq_true (List.mem_filter.mp hw).2 (of_decide_eq_true hmem)
    have htop : x.1.stackingOrder.dedup.filter (· ∈ x.1.stackingOrder) = x.1.stackingOrder.dedup :=
      List.filter_eq_self.mpr fun w hw => decide_eq_true (List.mem_dedup.mp hw)
    rw [hostOrder, hrecorder, Recorder.stacking_foldl_put, Recorder.foldl_raise,
      List.filter_append, hbelow, htop, List.nil_append]
  · rw [hrecorder]
    exact Recorder.foldl_kept r Recorder.destroyed (fun w r => r.destroyed_put w c.bounds) _
  · rw [hrecorder]
    exact Recorder.frame?_foldl_put c.bounds _ (.inl hw)

/-- On a recorder the items that are meant are dropped if their widgets are destroyed, and the others'
widgets are moved. -/
theorem restack_recorder (c : LayerStack α) (r : Recorder α) (t : Target) (z : Int32) (m : Restack) :
    let items := (c.items.modify (meant t) fun layer => { layer with z }).erase fun s =>
      r.isDestroyed s.item.widget && meant t s
    let x := c.restack Recorder.host t z m r
    x.1.2 = { c with items } ∧
      x.2 = ((c.meantWidgets t).filter (!r.isDestroyed ·)).foldl (fun r w => r.restack w m) r := by
  intro items x
  let targets := c.items.slots.filter (meant t)
  let changed := c.items.modify (meant t) fun layer => { layer with z }
  by_cases hnil : c.meantWidgets t = []
  · have hkept : ∀ s ∈ c.items.slots, (r.isDestroyed s.item.widget && meant t s) = false := by
      intro s hs
      rw [not_meant_of_nil hnil hs, Bool.and_false]
    have hchanged : changed = c.items :=
      Registry.modify_of_forall (fun s hs => not_meant_of_nil hnil hs) _
    have hitems : items = c.items := by
      change changed.erase _ = c.items
      rw [hchanged, Registry.erase_of_forall hkept]
    have hx : x = ((false, c), r) := congrFun (restack_of_nil Recorder.host hnil z m) r
    rw [hx, hitems, hnil]
    exact ⟨rfl, rfl⟩
  · let y := attempt (fun s : Slot Layer => Recorder.host.restack s.item.widget m) targets r
    obtain ⟨hrefused, hstate⟩ :
        y.1.2 = c.items.slots.filter (fun s => r.isDestroyed s.item.widget && meant t s) ∧
          y.2 = ((c.meantWidgets t).filter (!r.isDestroyed ·)).foldl
            (fun r w => r.restack w m) r := by
      rw [meantWidgets, List.filter_map, List.foldl_map, ← List.filter_filter]
      exact Recorder.attempt_ifAlive (fun s : Slot Layer => s.item.widget)
        (fun s r => r.destroyed_restack m s.item.widget) targets r
    have hitems : changed.eraseIds (y.1.2.map Slot.id) = items := by
      rw [hrefused]
      refine Registry.eraseIds_filter_mapItems _ _ fun s => ?_
      let layer : Layer := if meant t s then { s.item with z } else s.item
      have hwidget : layer.widget = s.item.widget := (apply_ite Layer.widget _ _ _).trans (ite_self _)
      change (r.isDestroyed layer.widget && t.hits s.id layer.widget) = _
      rw [hwidget]
      rfl
    have hsome : ¬ targets.isEmpty = true :=
      fun hnone => hnil (congrArg (List.map _) (List.isEmpty_iff.mp hnone))
    have hx : x = ((true, { c with items := changed.eraseIds (y.1.2.map Slot.id) }), y.2) :=
      congrFun (if_neg hsome) r
    rw [hx, hitems]
    exact ⟨rfl, hstate⟩

/-- A move that finds a height beyond all others takes the items that are meant to its end. The other items
lie as the heights that the move starts from have them. -/
theorem move_stacked {c : LayerStack α} {m : Restack} (hedge : c.edge m ≠ m.limit) (r : Recorder α)
    (t : Target) :
    let others := (sortByKey (c.levels m) c.items.slots).filter (!meant t ·)
    let x := c.move Recorder.host t m r
    (x.1.2.size = c.size ∧ x.1.2.dirty = c.dirty) ∧
      x.1.2.stackingOrder = m.attach ((c.meantWidgets t).filter (!r.isDestroyed ·))
        (others.map fun s => s.item.widget) ∧
      x.2 = ((c.meantWidgets t).filter (!r.isDestroyed ·)).foldl (fun r w => r.restack w m) r := by
  intro others x
  let c' : LayerStack α := { c with items := relevel c.items (c.levels m) }
  have hx : x = c'.restack Recorder.host t (m.next (c.edge m)) m r :=
    congrFun (move_eq Recorder.host t c m) r
  obtain ⟨hstack, hrecorder⟩ := c'.restack_recorder r t (m.next (c.edge m)) m
  rw [← hx] at hstack hrecorder
  have hmeant : c'.meantWidgets t = c.meantWidgets t := by
    rw [meantWidgets, slots_relevel, List.filter_map, List.map_map]
    rfl
  rw [hmeant] at hrecorder
  refine ⟨?_, ?_, hrecorder⟩
  · rw [hstack]
    exact ⟨rfl, rfl⟩
  · let dropped (s : Slot Layer) : Bool := r.isDestroyed s.item.widget && meant t s
    -- Only what is meant can be dropped, so the others stay all of them.
    have hmoved : (c.items.slots.filter (meant t)).filter (!dropped ·) =
        (c.items.slots.filter (meant t)).filter (fun s => !r.isDestroyed s.item.widget) := by
      refine List.filter_congr fun s hs => congrArg (!·) ?_
      exact (congrArg (_ && ·) (List.mem_filter.mp hs).2).trans (Bool.and_true _)
    have hothers : others.filter (!dropped ·) = others := by
      refine List.filter_eq_self.mpr fun s hs => ?_
      have hmeant : meant t s = false := Bool.not_eq_true' _ ▸ (List.mem_filter.mp hs).2
      exact congrArg (!·) ((congrArg (_ && ·) hmeant).trans (Bool.and_false _))
    rw [hstack, stackingOrder, Registry.inOrder_erase, modify_relevel, inOrder_relevel,
      sortByKey_moved (beyond_of_edge_ne_limit hedge), List.filter_map, List.map_map]
    change ((m.attach _ others).filter (!dropped ·)).map (fun s => s.item.widget) = _
    rw [Restack.filter_attach, Restack.map_attach, hmoved, hothers, meantWidgets, List.filter_map]
    rfl

theorem move_recorder {c : LayerStack α} (hheights : c.HasHeights) (r : Recorder α) (t : Target)
    (m : Restack) :
    let x := c.move Recorder.host t m r
    (x.1.2.size = c.size ∧ x.1.2.dirty = c.dirty) ∧
      x.1.2.stackingOrder =
        m.attach ((c.meantWidgets t).filter (!r.isDestroyed ·)) (c.otherWidgets t) ∧
      x.2 = ((c.meantWidgets t).filter (!r.isDestroyed ·)).foldl (fun r w => r.restack w m) r := by
  intro x
  obtain ⟨hkept, horder, hrecorder⟩ := move_stacked (edge_ne_limit hheights m) r t
  rw [sortByKey_levels hheights] at horder
  exact ⟨hkept, horder, hrecorder⟩

/-- What a move comes to: the target means nothing, only items whose widget is destroyed, or items
whose widget is alive. -/
inductive Moved (m : Restack) (t : Target) (c : LayerStack α) (r : Recorder α) (c' : LayerStack α)
    (r' : Recorder α) : Prop
  | nothing (hmeant : c.meantWidgets t = []) (horder : c'.stackingOrder = c.stackingOrder)
      (hrecorder : r' = r)
  | dropped {w : Widget} (hw : w ∈ c.meantWidgets t) (hdestroyed : r.isDestroyed w = true)
      (horder : c'.stackingOrder = c.otherWidgets t) (hrecorder : r' = r)
  | widget {w : Widget} {n : Nat} (hw : w ∈ c.meantWidgets t) (halive : r.isDestroyed w = false)
      (horder : c'.stackingOrder = m.attach (List.replicate (n + 1) w) (c.otherWidgets t))
      (hstacking : r'.stacking = Recorder.moveTo m w r.stacking)
      (hdestroyed : r'.destroyed = r.destroyed) (hframe : ∀ u, r'.frame? u = r.frame? u)

theorem move_cases {c : LayerStack α} (hheights : c.HasHeights) (r : Recorder α) (t : Target)
    (m : Restack) :
    let x := c.move Recorder.host t m r
    Moved m t c r x.1.2 x.2 := by
  intro x
  obtain ⟨-, horder, hrecorder⟩ := move_recorder hheights r t m
  cases hmeant : c.meantWidgets t with
  | nil =>
    rw [hmeant] at horder hrecorder
    refine .nothing hmeant (horder.trans ?_) hrecorder
    rw [otherWidgets_of_nil hmeant]
    cases m
    · exact List.append_nil _
    · rfl
  | cons w ws =>
    have hw : w ∈ c.meantWidgets t := hmeant ▸ List.mem_cons_self
    obtain ⟨n, hn⟩ := exists_meantWidgets_eq hw
    rw [hn, List.filter_replicate] at horder hrecorder
    cases hdestroyed : r.isDestroyed w with
    | true =>
      rw [hdestroyed, if_neg (by decide)] at horder hrecorder
      refine .dropped hw hdestroyed (horder.trans ?_) hrecorder
      cases m
      · exact List.append_nil _
      · rfl
    | false =>
      rw [hdestroyed, if_pos (by decide)] at horder hrecorder
      refine .widget hw hdestroyed horder ?_ ?_ fun u => ?_
      · rw [hrecorder, Recorder.stacking_foldl_restack, Recorder.foldl_moveTo_replicate]
      · rw [hrecorder]
        exact Recorder.foldl_kept r Recorder.destroyed (fun w r => r.destroyed_restack m w) _
      · rw [hrecorder]
        exact Recorder.foldl_kept r (·.frame? u) (fun w r => r.frame?_restack m w u) _

/-- What an operation comes down to: nothing, a relayout of some stack, or a move. -/
inductive ComesDownTo (h : Host α σ) (c : LayerStack α) : StateM σ (LayerStack α) → Prop
  | nothing : ComesDownTo h c (pure c)
  | relayout (c' : LayerStack α) : ComesDownTo h c (c'.relayout h)
  | move (t : Target) (m : Restack) : ComesDownTo h c (Prod.snd <$> c.move h t m)

theorem perform_comesDownTo (h : Host α σ) (o : Operation α StackOperation) (c : LayerStack α) :
    ComesDownTo h c (Prod.snd <$> o.perform h c) := by
  cases o with
  | resize size =>
    change ComesDownTo h c (c.resize h size)
    rw [resize]
    split
    · exact .nothing
    · exact .relayout _
  | relayout => exact .relayout c
  | settle =>
    change ComesDownTo h c (if c.dirty then c.relayout h else pure c)
    split
    · exact .relayout c
    · exact .nothing
  | own o =>
    cases o with
    | add w z => exact .relayout { c with items := c.items.add ⟨w, z⟩, dirty := true }
    | remove t =>
      let items := c.items.erase (meant t)
      change ComesDownTo h c (Prod.snd <$> tell .removed (c.remove h t))
      by_cases hnone : c.items.size - items.size = 0
      · have hremove : c.remove h t = pure (0, c) := if_pos hnone
        rw [hremove]
        exact .nothing
      · have hremove : c.remove h t =
            (fun c' => (c.items.size - items.size, c')) <$> { c with items }.changed h := if_neg hnone
        rw [hremove]
        exact .relayout { c with items, dirty := true }
    | clear =>
      change ComesDownTo h c (c.clear h)
      rw [clear]
      split
      · exact .nothing
      · exact .relayout { c with items := c.items.clear, dirty := true }
    | bringToFront t => exact .move t .raise
    | sendToBack t => exact .move t .lower

end LayerStack

end ResponsiveLayout
