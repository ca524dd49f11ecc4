import ResponsiveLayout.Host.Recording
import ResponsiveLayout.Proofs.Flex.Edges

/-! Where a row that is packed to its end, to its centre or apart lies in its container: by the edges of
the container as long as the gaps between the items fit into it, and by the room that the gaps take
otherwise. -/
namespace ResponsiveLayout

namespace FlexBox

variable {σ : Type}

def gaps (c : FlexBox Rat) : Rat := c.config.gap * (c.items.size - 1 : Nat)

/-- The length that a row is anchored to: that of the container, unless the gaps alone take more. -/
def span (c : FlexBox Rat) : Rat := max (c.config.direction.main c.size) c.gaps

theorem room_add_gaps (c : FlexBox Rat) : c.room c.items.size + c.gaps = c.span := by
  have hroom : c.room c.items.size = max 0 (c.config.direction.main c.size - c.gaps) :=
    Scalar.positive_eq_max _
  rw [hroom, span, max_comm, max_add, sub_add_cancel, zero_add]

/-- The ends of a row, with its first and its last frame. -/
structure Anchored (c : FlexBox Rat) (frames : List (Rect Rat)) (first last : Rect Rat) : Prop where
  packed_end : c.config.justify = .end → c.config.direction.trailing last = c.span
  packed_center : c.config.justify = .center →
    c.config.direction.leading first = c.span - c.config.direction.trailing last
  packed_apart : c.config.justify = .spaceBetween → 2 ≤ c.items.size →
    c.config.direction.leading first = 0 ∧
      c.config.direction.trailing last =
        max c.span (Scalar.total (frames.map c.config.direction.extent) + c.gaps)

theorem anchored_frames {c : FlexBox Rat} {measured : List (Slot (Item Rat) × Size Rat)}
    (hsome : measured ≠ []) (hcount : measured.length = c.items.size) :
    ∃ first last, ((c.frames measured).map Prod.snd).head? = some first ∧
      ((c.frames measured).map Prod.snd).getLast? = some last ∧
      c.Anchored ((c.frames measured).map Prod.snd) first last := by
  have hspaced := c.spaced_frames hsome
  have hspan := c.room_add_gaps
  have hgaps : c.gaps = c.config.gap * (c.items.size - 1 : Nat) := rfl
  obtain ⟨p, hp, hlead⟩ := hspaced.head?
  obtain ⟨q, hq, hstop⟩ := hspaced.getLast?
  rw [pieces, List.head?_map, Option.map_eq_some_iff] at hp
  rw [pieces, List.getLast?_map, Option.map_eq_some_iff] at hq
  obtain ⟨first, hfirst, rfl⟩ := hp
  obtain ⟨last, hlast, rfl⟩ := hq
  dsimp only at hlead hstop
  rw [← Direction.trailing_eq, hcount] at hstop
  rw [hcount] at hlead
  refine ⟨first, last, hfirst, hlast, ?_, ?_, ?_⟩
  · intro hjustify
    rw [hjustify] at hstop
    simp only [Justify.leadAndSpacing] at hstop
    rw [hstop, ← hspan, hgaps]
    ring
  · intro hjustify
    rw [hjustify] at hlead hstop
    simp only [Justify.leadAndSpacing] at hlead hstop
    rw [hlead, hstop, ← hspan, hgaps]
    ring
  · intro hjustify hmany
    have hsteps : ((c.items.size - 1 : Nat) : Rat) ≠ 0 := by
      rw [Nat.cast_ne_zero]
      omega
    have hspread (spread : Rat) : spread / (c.items.size - 1 : Nat) * (c.items.size - 1 : Nat) =
        spread := div_mul_cancel₀ _ hsteps
    -- Either the items fill the room, or what they leave is spread out between them.
    have hfilled : Scalar.total (c.lengths measured) +
          max 0 (c.room c.items.size - Scalar.total (c.lengths measured)) =
        max (c.room c.items.size) (Scalar.total (c.lengths measured)) := by
      rw [add_max, add_zero, add_sub_cancel, max_comm]
    rw [hjustify] at hlead hstop
    simp only [Justify.leadAndSpacing, if_pos (Nat.lt_of_succ_le hmany), Scalar.positive_eq_max]
      at hlead hstop
    refine ⟨hlead, ?_⟩
    rw [hstop, extents_frames, ← hspan, max_add_add_right, ← hfilled, hgaps, add_mul, hspread]
    ring

/-- A pass in which every call is carried out anchors its row. -/
theorem relayout_anchored (h : Host Rat σ) {c : FlexBox Rat} {s : σ} {log es : List (Exchange Rat)}
    (hready : c.isReady = true) (hcalls : (c.relayout h.transcribed (s, log)).2.2 = log ++ es)
    (hdone : ∀ e ∈ es, e.refused = false) :
    ∃ frames first last, frames.length = c.items.size ∧
      placements es = ((c.items.inOrder Item.order).zip frames).map
        (fun f => (f.1.item.widget, .frame f.2)) ∧
      frames.head? = some first ∧ frames.getLast? = some last ∧ c.Anchored frames first last := by
  obtain ⟨measured, hmeasured, hplaced⟩ := relayout_frames hready hcalls hdone
  have hcount : measured.length = c.items.size := by
    rw [← List.length_map Prod.fst, hmeasured, Registry.length_inOrder]
  have hsome : measured ≠ [] := by
    intro hnone
    rw [hnone, List.map_nil] at hmeasured
    exact Registry.inOrder_ne_nil_of_ready hready hmeasured.symm
  obtain ⟨first, last, hfirst, hlast, hanchored⟩ := anchored_frames hsome hcount
  refine ⟨(c.frames measured).map Prod.snd, first, last, ?_, ?_, hfirst, hlast, hanchored⟩
  · rw [List.length_map, ← List.length_map Prod.fst, frames_fst, List.length_map, hcount]
  · rw [hplaced, ← hmeasured, ← c.frames_fst, List.zip_map', List.map_map]
    rfl

/-- A row of two widgets, packed to the end of a square of ten. -/
def couple (gap : Rat) : FlexBox Rat where
  config := ⟨.row, .start, .end, gap⟩
  items := (Registry.empty.add (.ofWidget ⟨1⟩)).add (.ofWidget ⟨2⟩)
  size := ⟨10, 10⟩
  dirty := true
  passes := 0

def coupleSizes (side : Rat) : Recorder Rat :=
  (Recorder.empty.setSize ⟨1⟩ ⟨side, side⟩).setSize ⟨2⟩ ⟨side, side⟩

theorem relayout_anchored_couple :
    let es := ((couple 2).relayout Recorder.host.transcribed (coupleSizes 3, [])).2.2
    (couple 2).isReady = true ∧ (∀ e ∈ es, e.refused = false) ∧
      ∃ frames first last, frames.length = (couple 2).items.size ∧
        placements es = (((couple 2).items.inOrder Item.order).zip frames).map
          (fun f => (f.1.item.widget, .frame f.2)) ∧
        frames.head? = some first ∧ frames.getLast? = some last ∧
        (couple 2).Anchored frames first last :=
  ⟨by decide +kernel, by decide +kernel,
    relayout_anchored Recorder.host (by decide +kernel) (List.nil_append _).symm (by decide +kernel)⟩

/-- Where the gap alone is more than fits, the row does not end with the container. -/
theorem relayout_not_anchored_to_end :
    let es := ((couple 20).relayout Recorder.host.transcribed (coupleSizes 5, [])).2.2
    (∀ e ∈ es, e.refused = false) ∧
      placements es = [(⟨1⟩, .frame ⟨0, 0, 0, 5⟩), (⟨2⟩, .frame ⟨20, 0, 0, 5⟩)] ∧
      (couple 20).config.direction.trailing ⟨20, 0, 0, 5⟩ ≠
        (couple 20).config.direction.main (couple 20).size := by
  decide +kernel

end FlexBox

end ResponsiveLayout
