import ResponsiveLayout.Proofs.Stack.Agreement

/-! What a relayout makes of a move. It raises the widgets anew from the lowest item to the topmost, so a
widget with several items goes where its topmost item lies. A move has taken the widget to the end that
one of its items went to. -/
namespace ResponsiveLayout

variable {α σ : Type}

theorem filter_dedup {β : Type} [DecidableEq β] (p : β → Bool) (bs : List β) :
    (bs.filter p).dedup = bs.dedup.filter p := by
  induction bs with
  | nil => rfl
  | cons b bs ih =>
    by_cases hb : b ∈ bs
    · rw [List.dedup_cons_of_mem hb, ← ih, List.filter_cons]
      split
      · next hp => exact List.dedup_cons_of_mem (List.mem_filter.mpr ⟨hb, hp⟩)
      · rfl
    · have hnot : b ∉ bs.filter p := fun hmem => hb (List.mem_filter.mp hmem).1
      rw [List.dedup_cons_of_notMem hb, List.filter_cons, List.filter_cons]
      split
      · rw [List.dedup_cons_of_notMem hnot, ih]
      · exact ih

theorem cons_eq_dedup_iff {w : Widget} {us : List Widget} (hw : w ∉ us) (ws : List Widget) :
    w :: us = ws.dedup ↔ us = ws.dedup.filter (· ≠ w) ∧ ws.dedup.head? = some w := by
  have hfilter {l : List Widget} (hl : w ∉ l) : (w :: l).filter (· ≠ w) = l := by
    rw [List.filter_cons_of_neg (by simp)]
    exact List.filter_eq_self.mpr fun u hu => decide_eq_true (ne_of_mem_of_not_mem hu hl)
  constructor
  · intro heq
    rw [← heq, hfilter hw]
    exact ⟨rfl, rfl⟩
  · rintro ⟨hus, hhead⟩
    obtain ⟨rest, hrest⟩ := List.head?_eq_some_iff.mp hhead
    have hnodup : (w :: rest).Nodup := hrest ▸ ws.nodup_dedup
    rw [hus, hrest, hfilter (List.nodup_cons.mp hnodup).1]

theorem dedup_append_replicate (ws : List Widget) (w : Widget) (n : Nat) :
    (ws ++ List.replicate (n + 1) w).dedup = ws.dedup.filter (· ≠ w) ++ [w] := by
  -- What is raised in turn on nothing is what is left without repetition.
  have hraise (us : List Widget) :
      us.foldl (fun order w => Recorder.moveTo .raise w order) [] = us.dedup := by
    rw [Recorder.foldl_raise, List.filter_nil, List.nil_append]
  rw [← hraise, List.foldl_append, hraise, Recorder.foldl_moveTo_replicate, Recorder.moveTo]

/-- Where the items of a widget at one end leave it without repetition. -/
theorem attach_eq_dedup_iff (m : Restack) {w : Widget} {us : List Widget} (hw : w ∉ us)
    (ws : List Widget) (n : Nat) :
    m.attach [w] us = (m.attach (List.replicate (n + 1) w) ws).dedup ↔
      us = ws.dedup.filter (· ≠ w) ∧ (m = .lower → w ∈ ws → ws.dedup.head? = some w) := by
  cases m with
  | raise =>
    rw [Restack.attach, Restack.attach, dedup_append_replicate, List.append_left_inj]
    exact (and_iff_left fun hm => Restack.noConfusion hm).symm
  | lower =>
    rw [Restack.attach, Restack.attach, List.singleton_append,
      forall_prop_of_true (rfl : Restack.lower = .lower)]
    by_cases hmem : w ∈ ws
    · have hsub : List.replicate (n + 1) w ⊆ ws :=
        fun u hu => (List.mem_replicate.mp hu).2 ▸ hmem
      rw [hsub.dedup_append_right, cons_eq_dedup_iff hw, forall_prop_of_true hmem]
    · have hapart : List.Disjoint (List.replicate (n + 1) w) ws :=
        fun u hu hu' => hmem ((List.mem_replicate.mp hu).2 ▸ hu')
      have hself : ws.dedup.filter (· ≠ w) = ws.dedup :=
        List.filter_eq_self.mpr fun u hu =>
          decide_eq_true (ne_of_mem_of_not_mem (List.mem_dedup.mp hu) hmem)
      rw [hapart.dedup_append, List.replicate_dedup n.succ_ne_zero, List.singleton_append, hself,
        List.cons_inj_right]
      exact (and_iff_left fun hmem' => absurd hmem' hmem).symm

namespace LayerStack

theorem filter_not_mem_meantWidgets {c : LayerStack α} {t : Target} {w : Widget}
    (hw : w ∈ c.meantWidgets t) (ws : List Widget) :
    ws.filter (· ∉ c.meantWidgets t) = ws.filter (· ≠ w) := by
  refine List.filter_congr fun u _ => decide_eq_decide.mpr (not_congr ?_)
  exact ⟨eq_of_mem_meantWidgets hw, fun hu => hu ▸ hw⟩

section

variable [Scalar α] {c : LayerStack α} {r : Recorder α}

theorem isReady_iff : c.isReady = true ↔ c.stackingOrder ≠ [] ∧ c.size.isEmpty = false := by
  rw [isReady, Bool.not_or, Bool.and_eq_true, Bool.not_eq_true', Bool.not_eq_true', ne_eq,
    c.stackingOrder_eq_nil, Bool.not_eq_true]

/-- While all widgets are alive, a relayout leaves each widget where its topmost item lies. -/
theorem relayout_hostOrder (hready : c.isReady = true)
    (halive : ∀ w ∈ c.stackingOrder, r.isDestroyed w = false) :
    let x := c.relayout Recorder.host r
    hostOrder x.1 x.2 = c.stackingOrder.dedup := by
  have hall : c.stackingOrder.filter (!r.isDestroyed ·) = c.stackingOrder := by
    refine List.filter_eq_self.mpr fun w hw => ?_
    rw [halive w hw]
    rfl
  obtain ⟨horder, hhost, -, -⟩ := pass_stacked c r
  intro x
  have hx : x = c.pass Recorder.host r := by
    change c.relayout Recorder.host r = _
    rw [relayout_eq, if_pos hready]
  rw [hx, hhost, horder, hall]

/-- A relayout leaves the order after a move as it is if and only if, apart from the widget that is moved,
the recorder had the widgets where their topmost items lie, and a widget that is lowered although
other items of it stay where they are would lie lowest by these items as well. -/
theorem move_survives_iff (hheights : c.HasHeights) (hready : c.isReady = true)
    (halive : ∀ w ∈ c.stackingOrder, r.isDestroyed w = false) (m : Restack) (t : Target) :
    let x := c.move Recorder.host t m r
    let y := x.1.2.relayout Recorder.host x.2
    hostOrder y.1 y.2 = hostOrder x.1.2 x.2 ↔
      (hostOrder c r).filter (· ∉ c.meantWidgets t) =
          c.stackingOrder.dedup.filter (· ∉ c.meantWidgets t) ∧
        (m = .lower → ∀ w ∈ c.meantWidgets t, w ∈ c.otherWidgets t →
          (c.otherWidgets t).dedup.head? = some w) := by
  intro x y
  obtain ⟨⟨hsize, -⟩, -, -⟩ := move_recorder hheights r t m
  obtain ⟨hitems, hempty⟩ := isReady_iff.mp hready
  have hrelayout (hne : x.1.2.stackingOrder ≠ [])
      (hleft : ∀ u ∈ x.1.2.stackingOrder, x.2.isDestroyed u = false) :
      hostOrder y.1 y.2 = x.1.2.stackingOrder.dedup :=
    relayout_hostOrder (isReady_iff.mpr ⟨hne, hsize ▸ hempty⟩) hleft
  cases move_cases hheights r t m with
  | nothing hmeant horder hrecorder =>
    have hleft : ∀ u ∈ x.1.2.stackingOrder, x.2.isDestroyed u = false := by
      rw [horder, hrecorder]
      exact halive
    have hall (ws : List Widget) : ws.filter (· ∉ c.meantWidgets t) = ws := by
      rw [hmeant]
      exact List.filter_eq_self.mpr fun u _ => decide_eq_true List.not_mem_nil
    have hhost : hostOrder x.1.2 x.2 = hostOrder c r := by
      rw [hostOrder, horder, hrecorder, hostOrder]
    rw [hrelayout (horder ▸ hitems) hleft, hhost, hall, hall, horder, eq_comm]
    refine (and_iff_left fun _ w hw => ?_).symm
    rw [hmeant] at hw
    exact absurd hw List.not_mem_nil
  | dropped hw hdestroyed horder hrecorder =>
    have hshown := mem_stackingOrder_of_mem_meantWidgets hw
    exact Bool.noConfusion (hdestroyed.symm.trans (halive _ hshown))
  | @widget w n hw hwalive horder hstacking hdestroyed hframe =>
    have hmem (u : Widget) : u ∈ x.1.2.stackingOrder → u ∈ c.stackingOrder := by
      rw [horder, Restack.mem_attach]
      rintro (hu | hu)
      · rw [(List.mem_replicate.mp hu).2]
        exact mem_stackingOrder_of_mem_meantWidgets hw
      · exact mem_stackingOrder_of_mem_otherWidgets hu
    have hleft : ∀ u ∈ x.1.2.stackingOrder, x.2.isDestroyed u = false := by
      intro u hu
      rw [Recorder.isDestroyed_congr hdestroyed]
      exact halive u (hmem u hu)
    have hne : x.1.2.stackingOrder ≠ [] := by
      have hself : w ∈ x.1.2.stackingOrder := by
        rw [horder, Restack.mem_attach]
        exact .inl (List.mem_replicate.mpr ⟨n.succ_ne_zero, rfl⟩)
      exact List.ne_nil_of_mem hself
    have hapart : w ∉ (hostOrder c r).filter (· ≠ w) :=
      fun hmem => of_decide_eq_true (List.mem_filter.mp hmem).2 rfl
    have hothers : (c.otherWidgets t).dedup.filter (· ≠ w) = c.stackingOrder.dedup.filter (· ≠ w) := by
      rw [← filter_dedup, filter_otherWidgets hw, filter_dedup]
    have honly : (∀ u ∈ c.meantWidgets t, u ∈ c.otherWidgets t →
        (c.otherWidgets t).dedup.head? = some u) ↔
          (w ∈ c.otherWidgets t → (c.otherWidgets t).dedup.head? = some w) := by
      refine ⟨fun h => h w hw, fun h u hu => ?_⟩
      rw [eq_of_mem_meantWidgets hw hu]
      exact h
    rw [hrelayout hne hleft, hostOrder_moved hw horder hstacking, eq_comm, horder,
      attach_eq_dedup_iff m hapart, hothers, honly, filter_not_mem_meantWidgets hw,
      filter_not_mem_meantWidgets hw]

end

/-- A move changes the items only, and adds none, whatever the host answers. -/
theorem move_kept (h : Host α σ) (c : LayerStack α) (t : Target) (m : Restack) (s : σ) :
    ∃ items : Registry Layer, (c.move h t m s).1.2 = { c with items } ∧
      items.size ≤ c.items.size := by
  have hrestack (r : Registry Layer) (hr : r.size = c.items.size) (z : Int32) :
      ∃ items : Registry Layer,
        (({ c with items := r } : LayerStack α).restack h t z m s).1.2 = { c with items } ∧
          items.size ≤ c.items.size := by
    rw [restack]
    split
    · exact ⟨r, rfl, hr.le⟩
    · refine ⟨_, rfl, ?_⟩
      rw [← hr]
      exact (List.length_filter_le _ _).trans (List.length_map _).le
  have hrenumber : (renumber c.items).size = c.items.size := List.length_map _
  cases m with
  | raise =>
    rw [move, bringToFront]
    refine hrestack _ ?_ _
    split
    · exact hrenumber
    · rfl
  | lower =>
    rw [move, sendToBack]
    split
    · exact hrestack _ hrenumber _
    · exact hrestack c.items rfl _

variable [Scalar α]

/-- A stack with items owes a pass unless there is room for them. -/
def Roomy (c : LayerStack α) : Prop :=
  c.dirty = false → c.items.isEmpty = false → c.size.isEmpty = false

theorem relayout_roomy (c : LayerStack α) (r : Recorder α) :
    (c.relayout Recorder.host r).1.Roomy := by
  rw [relayout_eq]
  cases hready : c.isReady with
  | false =>
    intro hclean hitems
    change (!c.items.isEmpty) = false at hclean
    change c.items.isEmpty = false at hitems
    rw [hitems] at hclean
    exact Bool.noConfusion hclean
  | true =>
    rw [if_pos rfl, pass_recorder]
    exact fun _ _ => (isReady_iff.mp hready).2

theorem ComesDownTo.roomy {c : LayerStack α} {x : StateM (Recorder α) (LayerStack α)}
    (hx : ComesDownTo Recorder.host c x) (hc : c.Roomy) (r : Recorder α) : (x r).1.Roomy := by
  cases hx with
  | nothing => exact hc
  | relayout c' => exact relayout_roomy c' r
  | move t m =>
    obtain ⟨items, hmove, hle⟩ := c.move_kept Recorder.host t m r
    change (c.move Recorder.host t m r).1.2.Roomy
    rw [hmove]
    intro hclean hitems
    -- No item was added, so there were items before the move.
    refine hc hclean ?_
    rw [Registry.isEmpty, List.isEmpty_eq_false_iff, ← List.length_pos_iff] at hitems ⊢
    exact hitems.trans_le hle

end LayerStack

namespace StackEvent

variable [Scalar α]

theorem run_roomy (es : List (StackEvent α)) : (run es).1.Roomy := by
  induction es using List.reverseRecOn with
  | nil => exact fun _ hitems => Bool.noConfusion hitems
  | append_singleton es e ih =>
    rw [run_concat]
    cases e with
    | operation o => exact (LayerStack.perform_comesDownTo _ o (run es).1).roomy ih (run es).2
    | destruction w => exact ih

/-- In a stack with items that owes no pass and whose widgets are alive: a relayout right after a move
leaves the stack's widgets in the recorder in their order if and only if, apart from the widget that is
moved, they lay where their topmost items are, and, if the widget is lowered although other items of it
stay where they are, it would lie lowest by these items as well. -/
theorem order_survives_relayout_iff (es : List (StackEvent α)) (m : Restack) (t : Target)
    (hclean : (run es).1.dirty = false) (hitems : (run es).1.items.isEmpty = false)
    (halive : ∀ w ∈ (run es).1.stackingOrder, (run es).2.isDestroyed w = false)
    (hheights : (run es).1.HasHeights) :
    let c := (run es).1
    let x := c.move Recorder.host t m (run es).2
    let y := x.1.2.relayout Recorder.host x.2
    y.1.hostOrder y.2 = x.1.2.hostOrder x.2 ↔
      (c.hostOrder (run es).2).filter (· ∉ c.meantWidgets t) =
          c.stackingOrder.dedup.filter (· ∉ c.meantWidgets t) ∧
        (m = .lower → ∀ w ∈ c.meantWidgets t, w ∈ c.otherWidgets t →
          (c.otherWidgets t).dedup.head? = some w) := by
  have hsize : (run es).1.size.isEmpty = false := run_roomy es hclean hitems
  have hready : (run es).1.isReady = true := by
    rw [LayerStack.isReady, hitems, hsize]
    rfl
  exact LayerStack.move_survives_iff hheights hready halive m t

/-- A widget with two items, one under and one over the item of another widget. -/
def doubled : List (StackEvent Float32) :=
  [.operation (.own (.add ⟨1⟩ 0)), .operation (.own (.add ⟨2⟩ 3)),
    .operation (.own (.add ⟨1⟩ 5)), .operation (.resize ⟨10, 10⟩)]

/-- Brought to the front, the lower item takes the widget there, and a relayout leaves it there. -/
theorem order_survives_relayout_doubled :
    let c := (run doubled).1
    (c.dirty = false ∧ c.items.isEmpty = false ∧
        ∀ w ∈ c.stackingOrder, (run doubled).2.isDestroyed w = false) ∧
      let x := c.move Recorder.host (.item ⟨0⟩) .raise (run doubled).2
      let y := x.1.2.relayout Recorder.host x.2
      y.1.hostOrder y.2 = x.1.2.hostOrder x.2 := by
  have hclean : (run doubled).1.dirty = false := by decide +kernel
  have hitems : (run doubled).1.items.isEmpty = false := by decide +kernel
  have halive : ∀ w ∈ (run doubled).1.stackingOrder, (run doubled).2.isDestroyed w = false := by
    decide +kernel
  refine ⟨⟨hclean, hitems, halive⟩, ?_⟩
  refine (order_survives_relayout_iff doubled .raise (.item ⟨0⟩) hclean hitems halive ?_).mpr ?_
  · decide +kernel
  · decide +kernel

/-- Sent to the back, the lower item takes the widget under the other, and a relayout, which goes by the
upper item, puts it on top again. -/
theorem order_lost_in_relayout :
    let c := (run doubled).1
    (c.dirty = false ∧ c.items.isEmpty = false ∧
        ∀ w ∈ c.stackingOrder, (run doubled).2.isDestroyed w = false) ∧
      let x := c.move Recorder.host (.item ⟨0⟩) .lower (run doubled).2
      let y := x.1.2.relayout Recorder.host x.2
      x.1.2.hostOrder x.2 = [⟨1⟩, ⟨2⟩] ∧ y.1.hostOrder y.2 = [⟨2⟩, ⟨1⟩] := by
  decide +kernel

end StackEvent

end ResponsiveLayout
