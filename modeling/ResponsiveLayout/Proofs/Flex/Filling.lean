import Mathlib.Algebra.BigOperators.Ring.List
import ResponsiveLayout.Proofs.Flex.Anchoring

/-! Items that grow fill their row. Their shares of what is left add up to all of it, so together with the
gaps the items take the length of the container, and nothing remains that the modes of justification
could differ in. -/
namespace ResponsiveLayout

/-- An item at its basis with its part of the free room. -/
def Demand.grown (free totalGrow : Rat) (d : Demand Rat) : Rat := d.basis + free * d.grow / totalGrow

section

variable {ds : List (Demand Rat)}

/-- The shares of the items make up what is shared. -/
theorem total_grown (hgrow : Scalar.total (ds.map Demand.grow) ≠ 0) (free : Rat) :
    Scalar.total (ds.map (Demand.grown free (Scalar.total (ds.map Demand.grow)))) =
      Scalar.total (ds.map Demand.basis) + free := by
  let totalGrow := Scalar.total (ds.map Demand.grow)
  have hgrown : Demand.grown free totalGrow = fun d => d.basis + free / totalGrow * d.grow := by
    funext d
    rw [Demand.grown, mul_div_right_comm]
  have hgrows : (ds.map Demand.grow).sum = totalGrow := (Scalar.total_eq_sum _).symm
  calc
    Scalar.total (ds.map (Demand.grown free totalGrow)) =
        (ds.map Demand.basis).sum + free / totalGrow * (ds.map Demand.grow).sum := by
      rw [hgrown, Scalar.total_eq_sum, List.sum_map_add, List.sum_map_mul_left]
    _ = Scalar.total (ds.map Demand.basis) + free := by
      rw [hgrows, div_mul_cancel₀ free hgrow, Scalar.total_eq_sum]

theorem distribute_grown {available : Rat} (hfits : Scalar.total (ds.map Demand.basis) ≤ available)
    (hgrow : 0 < Scalar.total (ds.map Demand.grow)) :
    (distribute ds available).sizes =
      ds.map (Demand.grown (available - Scalar.total (ds.map Demand.basis))
        (Scalar.total (ds.map Demand.grow))) := by
  rcases hfits.eq_or_lt with hfull | hroom
  · -- Nothing is left to share, so every item stays at its basis.
    have hnone : available - Scalar.total (ds.map Demand.basis) = 0 := by linarith
    have hbasis : ∀ d ∈ ds, d.grown 0 (Scalar.total (ds.map Demand.grow)) = d.basis := by
      intro d _
      simp [Demand.grown]
    simp only [distribute, hnone, lt_irrefl, if_false]
    exact (List.map_congr_left hbasis).symm
  · have hsome : 0 < available - Scalar.total (ds.map Demand.basis) := by linarith
    simp only [distribute, if_pos hsome, growInto, if_pos hgrow]
    refine List.map_congr_left fun d _ => ?_
    rw [Demand.grown, mul_div_assoc]

theorem total_grow_pos (hds : ∀ d ∈ ds, 0 ≤ d.grow) (hgrows : ∃ d ∈ ds, 0 < d.grow) :
    0 < Scalar.total (ds.map Demand.grow) := by
  obtain ⟨d, hd, hpos⟩ := hgrows
  have hweights : ∀ w ∈ ds.map Demand.grow, 0 ≤ w := by
    intro w hw
    obtain ⟨e, he, rfl⟩ := List.mem_map.mp hw
    exact hds e he
  rw [Scalar.total_eq_sum]
  exact hpos.trans_le (List.single_le_sum hweights _ (List.mem_map_of_mem hd))

end

/-- Without anything left, no mode leaves room before the items or puts any between them. -/
theorem Justify.leadAndSpacing_zero (j : Justify) (n : Nat) :
    j.leadAndSpacing (0 : Rat) n = (0, 0) := by
  have hspread : Scalar.positive (0 : Rat) = 0 := if_neg (lt_irrefl 0)
  cases j <;> simp [leadAndSpacing, hspread]

theorem arrange_filled (j : Justify) {sizes : List Rat} {available : Rat}
    (hfilled : Scalar.total sizes = available) (gap : Rat) :
    arrange j sizes available gap = offsetsFrom gap 0 0 sizes := by
  rw [arrange, hfilled, sub_self, j.leadAndSpacing_zero]

namespace FlexBox

variable {σ : Type}

def measuredItems (c : FlexBox Rat) (es : List (Exchange Rat)) : List (Slot (Item Rat) × Size Rat) :=
  (c.items.inOrder Item.order).zip (measurements es)

def demands (c : FlexBox Rat) (measured : List (Slot (Item Rat) × Size Rat)) : List (Demand Rat) :=
  measured.map fun m => c.demand m.1.item m.2

/-- What the gaps and the bases leave of the container. -/
def surplus (c : FlexBox Rat) (ds : List (Demand Rat)) : Rat :=
  c.config.direction.main c.size - c.gaps - Scalar.total (ds.map Demand.basis)

/-- Frames that fill a row: each item has its basis and its part of the surplus, the first frame starts
with the container, each next one starts a gap behind the one before, and the last ends with the
container. -/
structure Filled (c : FlexBox Rat) (ds : List (Demand Rat)) (frames : List (Rect Rat)) : Prop where
  extents : frames.map c.config.direction.extent =
    ds.map fun d => d.basis + c.surplus ds * d.grow / Scalar.total (ds.map Demand.grow)
  starts : ∃ first, frames.head? = some first ∧ c.config.direction.leading first = 0
  follows : frames.IsChain fun r r' =>
    c.config.direction.leading r' = c.config.direction.trailing r + c.config.gap
  ends : ∃ last, frames.getLast? = some last ∧
    c.config.direction.trailing last = c.config.direction.main c.size

def justified (c : FlexBox Rat) (j : Justify) : FlexBox Rat :=
  { c with config := { c.config with justify := j } }

section

variable {c : FlexBox Rat} {measured : List (Slot (Item Rat) × Size Rat)}

/-- Where the gaps fit into the container, the room is what they leave of it. -/
theorem room_of_fits {n : Nat} (hcount : n = c.items.size)
    (hfits : c.gaps ≤ c.config.direction.main c.size) :
    c.room n = c.config.direction.main c.size - c.gaps := by
  rw [hcount, room, Scalar.positive_eq_max]
  exact max_eq_right (sub_nonneg.mpr hfits)

/-- Items that fit into the room and of which some grows take all of it. -/
theorem lengths_grown (hroom : c.room measured.length = c.config.direction.main c.size - c.gaps)
    (hfits : Scalar.total ((c.demands measured).map Demand.basis) ≤ c.room measured.length)
    (hgrow : 0 < Scalar.total ((c.demands measured).map Demand.grow)) :
    c.lengths measured = (c.demands measured).map (Demand.grown (c.surplus (c.demands measured))
        (Scalar.total ((c.demands measured).map Demand.grow))) ∧
      Scalar.total (c.lengths measured) = c.room measured.length := by
  have hlengths : c.lengths measured = (c.demands measured).map
      (Demand.grown (c.surplus (c.demands measured))
        (Scalar.total ((c.demands measured).map Demand.grow))) := by
    rw [surplus, ← hroom]
    exact distribute_grown hfits hgrow
  refine ⟨hlengths, ?_⟩
  rw [hlengths, total_grown hgrow.ne', surplus, hroom]
  ring

theorem frames_justified (hfilled : Scalar.total (c.lengths measured) = c.room measured.length)
    (j : Justify) : (c.justified j).frames measured = c.frames measured := by
  have hstarts : arrange j (c.lengths measured) (c.room measured.length) c.config.gap =
      arrange c.config.justify (c.lengths measured) (c.room measured.length) c.config.gap := by
    rw [arrange_filled j hfilled, arrange_filled c.config.justify hfilled]
  change (measured.zip ((arrange j (c.lengths measured) (c.room measured.length) c.config.gap).zip
    (c.lengths measured))).map _ = _
  rw [hstarts]
  rfl

theorem filled_frames (hsome : measured ≠ []) (hcount : measured.length = c.items.size)
    (hfilled : Scalar.total (c.lengths measured) = c.room measured.length) :
    Spaced c.config.gap 0 (c.pieces ((c.frames measured).map Prod.snd))
      (c.room measured.length + c.gaps) := by
  have hspaced := c.spaced_frames hsome
  simp only [hfilled, sub_self, Justify.leadAndSpacing_zero, add_zero, zero_add] at hspaced
  rw [gaps, ← hcount]
  exact hspaced

theorem frames_filled (hsome : measured ≠ []) (hcount : measured.length = c.items.size)
    (hroom : c.room measured.length = c.config.direction.main c.size - c.gaps)
    (hfits : Scalar.total ((c.demands measured).map Demand.basis) ≤ c.room measured.length)
    (hgrow : 0 < Scalar.total ((c.demands measured).map Demand.grow)) :
    c.Filled (c.demands measured) ((c.frames measured).map Prod.snd) := by
  obtain ⟨hlengths, hfilled⟩ := lengths_grown hroom hfits hgrow
  have hspaced := filled_frames hsome hcount hfilled
  rw [hroom, sub_add_cancel] at hspaced
  obtain ⟨p, hp, hlead⟩ := hspaced.head?
  obtain ⟨q, hq, hstop⟩ := hspaced.getLast?
  rw [pieces, List.head?_map, Option.map_eq_some_iff] at hp
  rw [pieces, List.getLast?_map, Option.map_eq_some_iff] at hq
  obtain ⟨first, hfirst, rfl⟩ := hp
  obtain ⟨last, hlast, rfl⟩ := hq
  have hchain := hspaced.isChain
  rw [pieces, List.isChain_map] at hchain
  constructor
  · rw [extents_frames, hlengths]
    rfl
  · exact ⟨first, hfirst, hlead⟩
  · apply hchain.imp
    intro r r' hnext
    rw [Direction.trailing_eq]
    exact hnext
  · refine ⟨last, hlast, ?_⟩
    rw [Direction.trailing_eq]
    exact hstop

end

/-- The calls of a relayout do not depend on the justification if the frames do not. -/
theorem relayout_justified (h : Host Rat σ) {c : FlexBox Rat} {j : Justify} {s : σ}
    {measured : List (Slot (Item Rat) × Size Rat)}
    (hmeasured : (attempt (fun b => h.measure b.item.widget) (c.items.inOrder Item.order) s).1.1 =
      measured)
    (hframes : (c.justified j).frames measured = c.frames measured) :
    ((c.justified j).relayout h s).2 = (c.relayout h s).2 := by
  have hready : (c.justified j).isReady = c.isReady := rfl
  have hitems : (c.justified j).items = c.items := rfl
  rw [relayout_eq, relayout_eq, hready]
  split
  · rw [pass_eq, pass_eq, hitems]
    dsimp only
    rw [hmeasured, hframes]
  · rfl

/-- A pass in which every call is carried out: if no basis and no grow weight is negative, some item grows,
and the bases fit with their gaps into the container, then the items fill it. However the row is
justified, the same calls are made. -/
theorem relayout_filled (h : Host Rat σ) {c : FlexBox Rat} {s : σ} {log es : List (Exchange Rat)}
    (hready : c.isReady = true) (hcalls : (c.relayout h.transcribed (s, log)).2.2 = log ++ es)
    (hdone : ∀ e ∈ es, e.refused = false)
    (hdemands : ∀ d ∈ c.demands (c.measuredItems es), 0 ≤ d.basis ∧ 0 ≤ d.grow)
    (hgrows : ∃ d ∈ c.demands (c.measuredItems es), 0 < d.grow)
    (hfits : Scalar.total ((c.demands (c.measuredItems es)).map Demand.basis) + c.gaps ≤
      c.config.direction.main c.size) :
    (∃ frames, frames.length = c.items.size ∧
      placements es = ((c.items.inOrder Item.order).zip frames).map
        (fun f => (f.1.item.widget, .frame f.2)) ∧
      c.Filled (c.demands (c.measuredItems es)) frames) ∧
    ∀ j, ((c.justified j).relayout h.transcribed (s, log)).2.2 = log ++ es := by
  let measured := c.measuredItems es
  obtain ⟨hmeasured, hattempt, hplaced⟩ := relayout_measured hready hcalls hdone
  change measured.map Prod.fst = c.items.inOrder Item.order at hmeasured
  change _ = measured at hattempt
  change placements es = (c.frames measured).map _ at hplaced
  have hcount : measured.length = c.items.size := length_of_measured hmeasured
  have hbases : 0 ≤ Scalar.total ((c.demands measured).map Demand.basis) := by
    rw [Scalar.total_eq_sum]
    apply List.sum_nonneg
    intro b hb
    obtain ⟨d, hd, rfl⟩ := List.mem_map.mp hb
    exact (hdemands d hd).1
  have hroom : c.room measured.length = c.config.direction.main c.size - c.gaps :=
    room_of_fits hcount (by linarith)
  have hfitting : Scalar.total ((c.demands measured).map Demand.basis) ≤ c.room measured.length := by
    rw [hroom]
    linarith
  have hgrow : 0 < Scalar.total ((c.demands measured).map Demand.grow) :=
    total_grow_pos (fun d hd => (hdemands d hd).2) hgrows
  refine ⟨⟨(c.frames measured).map Prod.snd, ?_, ?_, ?_⟩, fun j => ?_⟩
  · rw [List.length_map, length_frames, hcount]
  · rw [hplaced, ← hmeasured, c.frames_in_turn]
  · exact frames_filled (ne_nil_of_measured hready hmeasured) hcount hroom hfitting hgrow
  · -- The frames take all of the room, so no mode has anything to set them apart with.
    have hsame := frames_justified (lengths_grown hroom hfitting hgrow).2 j
    rw [← hcalls, relayout_justified h.transcribed hattempt hsame]

/-- A column of two widgets, one of which grows three times as strongly as the other. -/
def growingPair : FlexBox Rat where
  config := ⟨.column, .start, .spaceEvenly, 2⟩
  items := (Registry.empty.add ((Item.ofWidget ⟨1⟩).change (.grow 1))).add
    ((Item.ofWidget ⟨2⟩).change (.grow 3))
  size := ⟨10, 20⟩
  dirty := true
  passes := 0

theorem relayout_filled_pair :
    let es := (growingPair.relayout Recorder.host.transcribed (coupleSizes 3, [])).2.2
    let ds := growingPair.demands (growingPair.measuredItems es)
    (growingPair.isReady = true ∧ (∀ e ∈ es, e.refused = false) ∧
        (∀ d ∈ ds, 0 ≤ d.basis ∧ 0 ≤ d.grow) ∧ (∃ d ∈ ds, 0 < d.grow) ∧
        Scalar.total (ds.map Demand.basis) + growingPair.gaps ≤ 20) ∧
      (∃ frames, frames.length = growingPair.items.size ∧
        placements es = ((growingPair.items.inOrder Item.order).zip frames).map
          (fun f => (f.1.item.widget, .frame f.2)) ∧
        growingPair.Filled ds frames) ∧
      ∀ j, ((growingPair.justified j).relayout Recorder.host.transcribed (coupleSizes 3, [])).2.2 =
        es := by
  intro es ds
  have hready : growingPair.isReady = true := by decide +kernel
  have hdone : ∀ e ∈ es, e.refused = false := by decide +kernel
  have hdemands : ∀ d ∈ ds, 0 ≤ d.basis ∧ 0 ≤ d.grow := by decide +kernel
  have hgrows : ∃ d ∈ ds, 0 < d.grow := by decide +kernel
  have hfits : Scalar.total (ds.map Demand.basis) + growingPair.gaps ≤ 20 := by decide +kernel
  exact ⟨⟨hready, hdone, hdemands, hgrows, hfits⟩,
    relayout_filled Recorder.host hready (List.nil_append es).symm hdone hdemands hgrows hfits⟩

end FlexBox

end ResponsiveLayout
