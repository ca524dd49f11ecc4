import Mathlib.Data.List.Infix
import ResponsiveLayout.Proofs.Stack.Moves

/-! A stack and its recorder agree. While no two items show one widget that is alive, the recorder has the
stack's widgets in the order of the stack, and in its bounds, whenever no pass is owed. A pass brings
this about from any state; a move and the end of a widget keep it. -/
namespace ResponsiveLayout

variable {α : Type}

/-- What happens to a stack or to its recorder: an operation, or the end of a widget. -/
inductive StackEvent (α : Type) where
  | operation (o : Operation α StackOperation)
  | destruction (w : Widget)

namespace StackEvent

variable [Scalar α]

def step (x : LayerStack α × Recorder α) : StackEvent α → LayerStack α × Recorder α
  | operation o =>
    let y := o.perform Recorder.host x.1 x.2
    (y.1.2, y.2)
  | destruction w => (x.1, x.2.destroy w)

def run (es : List (StackEvent α)) : LayerStack α × Recorder α :=
  es.foldl step (LayerStack.new, Recorder.empty)

theorem run_concat (es : List (StackEvent α)) (e : StackEvent α) :
    run (es ++ [e]) = step (run es) e :=
  List.foldl_concat step _ e es

end StackEvent

namespace LayerStack

/-- No two items show one widget that is alive. -/
def Distinct (c : LayerStack α) (r : Recorder α) : Prop :=
  (c.stackingOrder.filter (!r.isDestroyed ·)).Nodup

theorem filter_ne_of_destroyed {w : Widget} {r : Recorder α} (hw : r.isDestroyed w = true)
    (ws : List Widget) :
    (ws.filter (· ≠ w)).filter (!r.isDestroyed ·) = ws.filter (!r.isDestroyed ·) := by
  rw [List.filter_filter]
  refine List.filter_congr fun u _ => ?_
  by_cases hu : u = w
  · rw [hu, hw, Bool.not_true, Bool.false_and]
  · rw [decide_eq_true hu, Bool.and_true]

variable [Scalar α]

/-- The widgets that are alive lie in the recorder in the order of the stack and in its bounds. -/
structure Agrees (c : LayerStack α) (r : Recorder α) : Prop where
  order : hostOrder c r = c.stackingOrder.filter (!r.isDestroyed ·)
  frame : ∀ w ∈ c.stackingOrder, r.isDestroyed w = false → r.frame? w = some c.bounds

theorem pass_agrees (c : LayerStack α) (r : Recorder α) :
    let x := c.pass Recorder.host r
    x.1.Distinct x.2 → x.1.Agrees x.2 := by
  intro x hdistinct
  obtain ⟨horder, hhost, hdestroyed, hframe⟩ := pass_stacked c r
  have halive : x.1.stackingOrder.filter (!x.2.isDestroyed ·) = x.1.stackingOrder := by
    rw [Recorder.isDestroyed_congr hdestroyed, horder, List.filter_filter]
    simp only [Bool.and_self]
  have hnodup : x.1.stackingOrder.Nodup := halive ▸ hdistinct
  have hbounds : x.1.bounds = c.bounds := by
    change (c.pass Recorder.host r).1.bounds = _
    rw [pass_recorder]
    rfl
  refine ⟨?_, fun w hw _ => ?_⟩
  · rw [hhost, halive, hnodup.dedup]
  · rw [hframe w hw, hbounds]

theorem relayout_agrees (c : LayerStack α) (r : Recorder α) :
    let x := c.relayout Recorder.host r
    x.1.Distinct x.2 → x.1.dirty = false → x.1.Agrees x.2 := by
  intro x
  change (c.relayout Recorder.host r).1.Distinct (c.relayout Recorder.host r).2 →
    (c.relayout Recorder.host r).1.dirty = false →
      (c.relayout Recorder.host r).1.Agrees (c.relayout Recorder.host r).2
  rw [relayout_eq]
  cases hready : c.isReady with
  | false =>
    -- Nothing is owed only if there are no items.
    intro _ hclean
    change (!c.items.isEmpty) = false at hclean
    rw [Bool.not_eq_false'] at hclean
    have hnil : c.stackingOrder = [] := c.stackingOrder_eq_nil.mpr hclean
    refine ⟨?_, fun w hw => ?_⟩
    · change r.stacking.filter (· ∈ c.stackingOrder) = c.stackingOrder.filter _
      rw [hnil]
      exact List.filter_eq_nil_iff.mpr fun w _ => by simp
    · change w ∈ c.stackingOrder at hw
      rw [hnil] at hw
      exact absurd hw List.not_mem_nil
  | true =>
    intro hdistinct _
    exact pass_agrees c r hdistinct

section

variable {m : Restack} {t : Target} {c c' : LayerStack α} {r r' : Recorder α} {w : Widget} {n : Nat}

/-- Items whose widget is destroyed have nothing in the recorder that could go with them. -/
theorem dropped_agrees (hagrees : c.Agrees r) (hw : w ∈ c.meantWidgets t)
    (hdestroyed : r.isDestroyed w = true) (horder : c'.stackingOrder = c.otherWidgets t)
    (hbounds : c'.bounds = c.bounds) : c'.Agrees r := by
  have hothers : ∀ u ∈ c.otherWidgets t, u ∈ c.stackingOrder :=
    fun u hu => mem_stackingOrder_of_mem_otherWidgets hu
  have hleft : ∀ u ∈ c.stackingOrder.filter (!r.isDestroyed ·), u ∈ c.otherWidgets t := by
    intro u hu
    obtain ⟨hu, halive⟩ := List.mem_filter.mp hu
    refine (mem_otherWidgets_of_ne hw ?_).mpr hu
    rintro rfl
    rw [hdestroyed] at halive
    exact Bool.noConfusion halive
  refine ⟨?_, fun u hu halive => ?_⟩
  · calc hostOrder c' r
      _ = (hostOrder c r).filter (· ∈ c.otherWidgets t) := by
        rw [hostOrder, hostOrder, horder, List.filter_filter]
        refine List.filter_congr fun u _ => ?_
        rw [← Bool.decide_and]
        exact decide_eq_decide.mpr (and_iff_left_of_imp (hothers u)).symm
      _ = c.stackingOrder.filter (!r.isDestroyed ·) := by
        rw [hagrees.order]
        exact List.filter_eq_self.mpr fun u hu => decide_eq_true (hleft u hu)
      _ = (c.otherWidgets t).filter (!r.isDestroyed ·) := by
        rw [← filter_ne_of_destroyed hdestroyed, ← filter_otherWidgets hw,
          filter_ne_of_destroyed hdestroyed]
      _ = c'.stackingOrder.filter (!r.isDestroyed ·) := by rw [horder]
  · rw [hbounds]
    exact hagrees.frame u (hothers u (horder ▸ hu)) halive

/-- A widget that is moved is shown by one item, so both orders have it at their ends and nowhere else. -/
theorem moved_agrees (hagrees : c.Agrees r) (hw : w ∈ c.meantWidgets t)
    (halive : r.isDestroyed w = false)
    (horder : c'.stackingOrder = m.attach (List.replicate (n + 1) w) (c.otherWidgets t))
    (hstacking : r'.stacking = Recorder.moveTo m w r.stacking)
    (hdestroyed : r'.destroyed = r.destroyed) (hframe : ∀ u, r'.frame? u = r.frame? u)
    (hbounds : c'.bounds = c.bounds) (hdistinct : c'.Distinct r') : c'.Agrees r' := by
  have hsame := Recorder.isDestroyed_congr hdestroyed
  have hshown : c'.stackingOrder.filter (!r'.isDestroyed ·) =
      m.attach (List.replicate (n + 1) w) ((c.otherWidgets t).filter (!r.isDestroyed ·)) := by
    rw [hsame, horder, Restack.filter_attach, List.filter_replicate, if_pos (halive ▸ rfl)]
  have hnodup : (List.replicate (n + 1) w ++ (c.otherWidgets t).filter (!r.isDestroyed ·)).Nodup :=
    (m.attach_perm _ _).nodup_iff.mp (hshown ▸ hdistinct)
  obtain ⟨honce, -, hapart⟩ := List.nodup_append.mp hnodup
  have hn : n = 0 := by
    have hle := List.nodup_replicate.mp honce
    omega
  subst hn
  have hnot : w ∉ (c.otherWidgets t).filter (!r.isDestroyed ·) :=
    fun hmem => hapart w (List.mem_singleton_self w) w hmem rfl
  refine ⟨?_, fun u hu hu' => ?_⟩
  · calc hostOrder c' r'
      _ = m.attach [w] ((hostOrder c r).filter (· ≠ w)) := hostOrder_moved hw horder hstacking
      _ = m.attach [w] (((c.otherWidgets t).filter (· ≠ w)).filter (!r.isDestroyed ·)) := by
        rw [hagrees.order, List.filter_comm, filter_otherWidgets hw]
      _ = m.attach [w] ((c.otherWidgets t).filter (!r.isDestroyed ·)) := by
        rw [List.filter_comm]
        congr 1
        exact List.filter_eq_self.mpr fun u hu => decide_eq_true (ne_of_mem_of_not_mem hu hnot)
      _ = c'.stackingOrder.filter (!r'.isDestroyed ·) := hshown.symm
  · rw [horder, Restack.mem_attach] at hu
    rw [hsame] at hu'
    rw [hframe, hbounds]
    refine hagrees.frame u ?_ hu'
    rcases hu with hu | hu
    · rw [List.mem_singleton.mp hu]
      exact mem_stackingOrder_of_mem_meantWidgets hw
    · exact mem_stackingOrder_of_mem_otherWidgets hu

theorem move_agrees (hheights : c.HasHeights) (hagrees : c.Agrees r) (t : Target) (m : Restack) :
    let x := c.move Recorder.host t m r
    x.1.2.Distinct x.2 → x.1.2.Agrees x.2 := by
  intro x hdistinct
  obtain ⟨⟨hsize, -⟩, -, -⟩ := move_recorder hheights r t m
  have hbounds : x.1.2.bounds = c.bounds := by rw [bounds, hsize, bounds]
  cases move_cases hheights r t m with
  | nothing hmeant horder hrecorder =>
    rw [hrecorder]
    refine ⟨?_, fun u hu halive => ?_⟩
    · rw [hostOrder, horder]
      exact hagrees.order
    · rw [hbounds]
      exact hagrees.frame u (horder ▸ hu) halive
  | dropped hw hdestroyed horder hrecorder =>
    rw [hrecorder]
    exact dropped_agrees hagrees hw hdestroyed horder hbounds
  | widget hw halive horder hstacking hdestroyed hframe =>
    exact moved_agrees hagrees hw halive horder hstacking hdestroyed hframe hbounds hdistinct

theorem destroy_agrees (hagrees : c.Agrees r) (w : Widget) : c.Agrees (r.destroy w) := by
  refine ⟨?_, fun u hu halive => ?_⟩
  · calc hostOrder c (r.destroy w)
      _ = (hostOrder c r).filter (· ≠ w) := List.filter_comm _ _ _
      _ = c.stackingOrder.filter (fun u => decide (u ≠ w) && !r.isDestroyed u) := by
        rw [hagrees.order, List.filter_filter]
      _ = c.stackingOrder.filter (!(r.destroy w).isDestroyed ·) := by
        refine List.filter_congr fun u _ => ?_
        rw [Recorder.isDestroyed_destroy, Bool.not_or, decide_not]
  · rw [Recorder.isDestroyed_destroy, Bool.or_eq_false_iff] at halive
    exact hagrees.frame u hu halive.2

theorem ComesDownTo.agrees {x : StateM (Recorder α) (LayerStack α)}
    (hx : ComesDownTo Recorder.host c x) (hheights : c.HasHeights)
    (hagrees : c.dirty = false → c.Agrees r) (hdistinct : (x r).1.Distinct (x r).2)
    (hclean : (x r).1.dirty = false) : (x r).1.Agrees (x r).2 := by
  cases hx with
  | nothing => exact hagrees hclean
  | relayout c' => exact relayout_agrees c' r hdistinct hclean
  | move t m =>
    obtain ⟨⟨-, hdirty⟩, -, -⟩ := move_recorder hheights r t m
    exact move_agrees hheights (hagrees (hdirty.symm.trans hclean)) t m hdistinct

end

end LayerStack

namespace StackEvent

variable [Scalar α]

theorem step_agrees {x : LayerStack α × Recorder α} (e : StackEvent α)
    (hheights : x.1.HasHeights) (hagrees : x.1.dirty = false → x.1.Agrees x.2)
    (hdistinct : (step x e).1.Distinct (step x e).2) (hclean : (step x e).1.dirty = false) :
    (step x e).1.Agrees (step x e).2 := by
  cases e with
  | operation o =>
    exact (LayerStack.perform_comesDownTo _ o x.1).agrees hheights hagrees hdistinct hclean
  | destruction w => exact LayerStack.destroy_agrees (hagrees hclean) w

/-- Whatever happens to a stack that never has two items for one widget that is alive: while no pass is
owed, the recorder has its widgets that are alive in the order of the stack, and each fills it. It takes
2^31 items for a stack to run out of heights. -/
theorem host_order_agrees (es : List (StackEvent α))
    (hdistinct : ∀ es', es' <+: es →
      ((run es').1.stackingOrder.filter (!(run es').2.isDestroyed ·)).Nodup)
    (hheights : ∀ es', es' <+: es → (run es').1.HasHeights)
    (hclean : (run es).1.dirty = false) :
    let x := run es
    x.2.stacking.filter (· ∈ x.1.stackingOrder) = x.1.stackingOrder.filter (!x.2.isDestroyed ·) ∧
      ∀ w ∈ x.1.stackingOrder, x.2.isDestroyed w = false →
        x.2.frame? w = some ⟨0, 0, x.1.size.width, x.1.size.height⟩ := by
  suffices hagrees : (run es).1.Agrees (run es).2 from ⟨hagrees.order, hagrees.frame⟩
  induction es using List.reverseRecOn with
  | nil => exact ⟨rfl, fun w hw => absurd hw List.not_mem_nil⟩
  | append_singleton es e ih =>
    have hbefore {es' : List (StackEvent α)} (hstart : es' <+: es) : es' <+: es ++ [e] :=
      hstart.trans (List.prefix_append es [e])
    have hlast := hdistinct _ (List.prefix_refl _)
    rw [run_concat] at hlast hclean ⊢
    refine step_agrees e (hheights es (List.prefix_append es [e])) ?_ hlast hclean
    exact ih (fun es' hes' => hdistinct es' (hbefore hes')) fun es' hes' => hheights es' (hbefore hes')

/-- Two layers under a third at the greatest height. The lowest is brought to the front, which renumbers
the heights, and the widget of the middle one is destroyed. -/
def renumbered : List (StackEvent Float32) :=
  [.operation (.own (.add ⟨1⟩ 0)), .operation (.own (.add ⟨2⟩ 4)),
    .operation (.own (.add ⟨3⟩ Int32.maxValue)), .operation (.resize ⟨20, 10⟩),
    .operation (.own (.bringToFront (.widget ⟨1⟩))), .destruction ⟨2⟩]

theorem host_order_agrees_renumbered :
    (run renumbered).1.dirty = false ∧ (run renumbered).1.stackingOrder = [⟨2⟩, ⟨3⟩, ⟨1⟩] ∧
      let x := run renumbered
      x.2.stacking.filter (· ∈ x.1.stackingOrder) = x.1.stackingOrder.filter (!x.2.isDestroyed ·) ∧
        ∀ w ∈ x.1.stackingOrder, x.2.isDestroyed w = false →
          x.2.frame? w = some ⟨0, 0, x.1.size.width, x.1.size.height⟩ := by
  have hbounds : ∀ es' ∈ renumbered.inits,
      ((run es').1.stackingOrder.filter (!(run es').2.isDestroyed ·)).Nodup ∧
        (run es').1.HasHeights := by decide +kernel
  have hclean : (run renumbered).1.dirty = false := by decide +kernel
  refine ⟨hclean, by decide +kernel, host_order_agrees renumbered ?_ ?_ hclean⟩
  · exact fun es' hes' => (hbounds es' ((List.mem_inits _ _).mpr hes')).1
  · exact fun es' hes' => (hbounds es' ((List.mem_inits _ _).mpr hes')).2

end StackEvent

end ResponsiveLayout
