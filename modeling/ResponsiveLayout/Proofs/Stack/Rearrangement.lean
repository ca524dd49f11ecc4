import ResponsiveLayout.Host.Recording
import ResponsiveLayout.Proofs.Host.Attempt
import ResponsiveLayout.Proofs.Host.Transcript
import ResponsiveLayout.Proofs.Stack.Heights

/-! What a move makes of a stack, whatever the host answers. The host is asked once about each item that
the target means. Those that it refuses are dropped; the others lie beyond the items that are not meant,
which stay as they lay. -/
namespace ResponsiveLayout

variable {α σ : Type}

theorem mem_of_mem_refused {β ε γ : Type} {b : β} {xs : List (β × Except ε γ)} (hb : b ∈ refused xs) :
    b ∈ xs.map Prod.fst := by
  obtain ⟨x, hx, rfl⟩ := List.mem_map.mp hb
  exact List.mem_map_of_mem (List.mem_filter.mp hx).1

namespace LayerStack

/-- The call that a move makes about an item, with what the host said. -/
def restacking (m : Restack) (x : Slot Layer × Except HostError Unit) : Exchange α :=
  ⟨.restack x.1.item.widget m, .carriedOut x.2⟩

theorem eraseIds_relevel (r : Registry Layer) (f : Slot Layer → Int32) (ids : List ItemId) :
    (relevel r f).eraseIds ids = relevel (r.eraseIds ids) f := by
  apply Registry.ext
  · exact List.filter_map
  · rfl

/-- Restacking at new heights asks about the items that are meant, in order of registration. -/
theorem restack_relevel (h : Host α σ) (c : LayerStack α) (f : Slot Layer → Int32) {t : Target}
    (hmeant : ∃ s ∈ c.items.slots, meant t s = true) (z : Int32) (m : Restack) (s : σ)
    (log : List (Exchange α)) :
    ∃ xs s', xs.map Prod.fst = c.items.slots.filter (meant t) ∧
      { c with items := relevel c.items f }.restack h.transcribed t z m (s, log) =
        ((true, { c with
          items := relevel (c.items.eraseIds ((refused xs).map Slot.id))
            fun s => if meant t s then z else f s }), s', log ++ xs.map (restacking m)) := by
  let targets := c.items.slots.filter (meant t)
  have hcall (b : Slot Layer) (s : σ) (log : List (Exchange α)) :
      ∃ a s', h.transcribed.restack (b.atHeight f).item.widget m (s, log) =
        (id a, s', log ++ [restacking m (b, a)]) := ⟨_, _, rfl⟩
  obtain ⟨xs, s', hxs, hattempt⟩ := attempt_noting hcall targets s log
  rw [Prod.map_id, List.map_id, ← List.map_eq_flatMap] at hattempt
  have hsome : ¬ (targets.map (Slot.atHeight f)).isEmpty = true := by
    obtain ⟨u, hu, hmeant⟩ := hmeant
    have hmem : u ∈ targets := List.mem_filter.mpr ⟨hu, hmeant⟩
    rw [List.isEmpty_map, List.isEmpty_iff]
    exact List.ne_nil_of_mem hmem
  refine ⟨xs, s', hxs, ?_⟩
  rw [restack, filter_meant_relevel, if_neg hsome, bind_apply, attempt_map_names,
    hattempt, modify_relevel]
  dsimp only
  rw [List.map_map, eraseIds_relevel]
  rfl

/-- A stack in which a target was moved. The host was asked about the items that the target means, in order
of registration. The items that it refused are gone and all others are there. What was meant has the
height next to the extreme one, beyond all that was not; the items that were not meant lie as before. -/
structure Rearranged (m : Restack) (t : Target) (c : LayerStack α)
    (xs : List (Slot Layer × Except HostError Unit)) (c' : LayerStack α) : Prop where
  asked : xs.map Prod.fst = c.items.slots.filter (meant t)
  kept : c'.items.slots.map Slot.label = (c.items.slots.filter (· ∉ refused xs)).map Slot.label
  height : ∀ s ∈ c'.items.slots, meant t s = true → s.item.z = m.next (c.edge m)
  beyond : ∀ s ∈ c'.items.slots, meant t s = true →
    Beyond m (fun u => u.item.z) s.item.z (c'.items.slots.filter (!meant t ·))
  others : ((c'.items.inOrder Layer.z).filter (!meant t ·)).map Slot.label =
    ((c.items.inOrder Layer.z).filter (!meant t ·)).map Slot.label
  nextIndex_eq : c'.items.nextIndex = c.items.nextIndex
  size_eq : c'.size = c.size
  dirty_eq : c'.dirty = c.dirty
  passes_eq : c'.passes = c.passes

section

variable {m : Restack} {t : Target} {z : Int32} {f : Slot Layer → Int32} {r : Registry Layer}

/-- An item after the heights of those that are meant were changed. -/
theorem exists_of_mem_moved {s : Slot Layer}
    (hs : s ∈ (relevel r fun s => if meant t s then z else f s).slots) :
    ∃ u ∈ r.slots, meant t s = meant t u ∧ s.item.z = if meant t u then z else f u := by
  rw [slots_relevel] at hs
  obtain ⟨u, hu, rfl⟩ := List.mem_map.mp hs
  exact ⟨u, hu, rfl, rfl⟩

theorem beyond_others {ss : List (Slot Layer)} (hz : Beyond m f z ss) (hsub : r.slots ⊆ ss) :
    Beyond m (fun u => u.item.z) z
      ((relevel r fun s => if meant t s then z else f s).slots.filter (!meant t ·)) := by
  apply hz.of_forall_exists
  intro s hs
  obtain ⟨hmem, hnot⟩ := List.mem_filter.mp hs
  obtain ⟨u, hu, hmeant, hheight⟩ := exists_of_mem_moved hmem
  rw [hmeant, Bool.not_eq_true'] at hnot
  rw [if_neg (Bool.eq_false_iff.mp hnot)] at hheight
  exact ⟨u, hsub hu, hheight⟩

/-- New heights for the items that are meant do not change how the others lie. -/
theorem others_relevel (r : Registry Layer) :
    (((relevel r fun s => if meant t s then z else f s).inOrder Layer.z).filter (!meant t ·)).map
        Slot.label =
      (sortByKey f (r.slots.filter (!meant t ·))).map Slot.label := by
  let g (s : Slot Layer) : Int32 := if meant t s then z else f s
  have hsame : sortByKey g (r.slots.filter (!meant t ·)) = sortByKey f (r.slots.filter (!meant t ·)) := by
    apply sortByKey_congr
    intro s hs
    have hunmeant : ¬ meant t s = true := by
      simpa using (List.mem_filter.mp hs).2
    exact if_neg hunmeant
  calc
    (((relevel r g).inOrder Layer.z).filter (!meant t ·)).map Slot.label =
        (((sortByKey g r.slots).filter (!meant t ·)).map (Slot.atHeight g)).map Slot.label := by
      rw [inOrder_relevel, List.filter_map]
      rfl
    _ = ((sortByKey g r.slots).filter (!meant t ·)).map Slot.label := by
      rw [List.map_map]
      rfl
    _ = (sortByKey f (r.slots.filter (!meant t ·))).map Slot.label := by
      rw [filter_sortByKey, hsame]

end

/-- Dropping the refused items drops none that was not meant. -/
theorem rearranged_of_levels {c : LayerStack α} (hheights : c.HasHeights) (m : Restack) {t : Target}
    {xs : List (Slot Layer × Except HostError Unit)}
    (hxs : xs.map Prod.fst = c.items.slots.filter (meant t)) :
    c.Rearranged m t xs { c with
      items := relevel (c.items.eraseIds ((refused xs).map Slot.id))
        fun s => if meant t s then m.next (c.edge m) else c.levels m s } := by
  have hasked : ∀ s ∈ refused xs, s ∈ c.items.slots ∧ meant t s = true := by
    intro s hs
    have hmem := mem_of_mem_refused hs
    rw [hxs] at hmem
    exact List.mem_filter.mp hmem
  have herase : c.items.eraseIds ((refused xs).map Slot.id) =
      c.items.erase fun s => decide (s ∈ refused xs) := by
    apply Registry.eraseIds_eq_erase
    intro s hs
    rw [c.items.mem_map_id hs fun u hu => (hasked u hu).1, decide_eq_true_iff]
  have hsub : (c.items.eraseIds ((refused xs).map Slot.id)).slots ⊆ c.items.slots := by
    intro s hs
    exact (List.mem_filter.mp hs).1
  have hothers : (c.items.eraseIds ((refused xs).map Slot.id)).slots.filter (!meant t ·) =
      c.items.slots.filter (!meant t ·) := by
    rw [herase]
    change (c.items.slots.filter _).filter _ = _
    rw [List.filter_filter]
    apply List.filter_congr
    intro s _
    by_cases hs : s ∈ refused xs
    · simp [(hasked s hs).2]
    · simp [hs]
  constructor
  · exact hxs
  · rw [herase, slots_relevel, List.map_map]
    change ((c.items.slots.filter _).map _) = _
    simp only [Function.comp_def, Slot.label_atHeight, decide_not]
  · intro s hs hmeant
    obtain ⟨u, -, hsame, hheight⟩ := exists_of_mem_moved hs
    rw [hheight, if_pos (hsame ▸ hmeant)]
  · intro s hs hmeant
    obtain ⟨u, -, hsame, hheight⟩ := exists_of_mem_moved hs
    rw [hheight, if_pos (hsame ▸ hmeant)]
    exact beyond_others (beyond_edge hheights m) hsub
  · rw [others_relevel, hothers, ← filter_sortByKey, sortByKey_levels hheights m]
  · rfl
  · rfl
  · rfl
  · rfl

/-- A move of a target that means something, whatever the host answers: it reports that, asks the host once
about each item that is meant and nothing else, and rearranges the stack. The height that the items are
given is computed without overflow. -/
theorem move_rearranges (h : Host α σ) (m : Restack) {t : Target} {c : LayerStack α}
    (hsize : c.items.size < 2 ^ 31) (hmeant : ∃ s ∈ c.items.slots, meant t s = true) (s : σ)
    (log : List (Exchange α)) :
    (∃ xs c' s', c.move h.transcribed t m (s, log) =
        ((true, c'), s', log ++ xs.map (restacking m)) ∧ c.Rearranged m t xs c') ∧
      (m.next (c.edge m)).toInt = (c.edge m).toInt + m.step := by
  have hheights : c.HasHeights := fun _ => hsize
  obtain ⟨xs, s', hxs, hrestack⟩ :=
    restack_relevel h c (c.levels m) hmeant (m.next (c.edge m)) m s log
  refine ⟨⟨xs, _, s', ?_, rearranged_of_levels hheights m hxs⟩, ?_⟩
  · rw [move_eq]
    exact hrestack
  · exact Restack.toInt_next (edge_ne_limit hheights m)

/-- A widget with a layer at the limit of the heights and one below, and another widget between them. -/
def brimful : LayerStack Float32 :=
  { (new : LayerStack Float32) with
    items := ((Registry.empty.add ⟨⟨1⟩, Int32.maxValue⟩).add ⟨⟨2⟩, 7⟩).add ⟨⟨1⟩, 0⟩ }

theorem move_rearranges_brimful :
    (brimful.items.size < 2 ^ 31 ∧ ∃ s ∈ brimful.items.slots, meant (.widget ⟨1⟩) s = true) ∧
      (∃ xs c' r, brimful.move Recorder.host.transcribed (.widget ⟨1⟩) .raise (Recorder.empty, []) =
          ((true, c'), r, [] ++ xs.map (restacking .raise)) ∧
        brimful.Rearranged .raise (.widget ⟨1⟩) xs c') ∧
      (Restack.raise.next (brimful.edge .raise)).toInt = (brimful.edge .raise).toInt + 1 := by
  have hsize : brimful.items.size < 2 ^ 31 := by decide
  have hmeant : ∃ s ∈ brimful.items.slots, meant (.widget ⟨1⟩) s = true := by decide
  exact ⟨⟨hsize, hmeant⟩, move_rearranges Recorder.host .raise hsize hmeant Recorder.empty []⟩

end LayerStack

end ResponsiveLayout
