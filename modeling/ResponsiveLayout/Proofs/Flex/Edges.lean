import Mathlib.Data.List.Chain
import Mathlib.Tactic.Linarith
import Mathlib.Tactic.Ring
import ResponsiveLayout.Proofs.Container.Visits
import ResponsiveLayout.Proofs.Scalar

/-! The edges of a row: where its first item starts, and where its last one ends. The items follow each
other at one common distance, so the end of the row is its start, all the lengths and all the distances
together. -/
namespace ResponsiveLayout

namespace Direction

variable {α : Type}

def leading (d : Direction) (r : Rect α) : α :=
  match d with
  | row => r.x
  | column => r.y

def extent (d : Direction) (r : Rect α) : α :=
  match d with
  | row => r.width
  | column => r.height

def trailing [Scalar α] (d : Direction) (r : Rect α) : α :=
  match d with
  | row => r.right
  | column => r.bottom

theorem trailing_eq (d : Direction) (r : Rect Rat) : d.trailing r = d.leading r + d.extent r := by
  cases d <;> rfl

theorem leading_frame (d : Direction) (start length cross crossLength : α) :
    d.leading (d.frame start length cross crossLength) = start := by
  cases d <;> rfl

theorem extent_frame (d : Direction) (start length cross crossLength : α) :
    d.extent (d.frame start length cross crossLength) = length := by
  cases d <;> rfl

end Direction

/-- Pieces that follow each other at one distance, the first from `start` on and the last up to `stop`.
A piece is its start with its length. -/
inductive Spaced (distance : Rat) : Rat → List (Rat × Rat) → Rat → Prop
  | last (start length : Rat) : Spaced distance start [(start, length)] (start + length)
  | cons (start length : Rat) {ps : List (Rat × Rat)} {stop : Rat}
      (hrest : Spaced distance (start + length + distance) ps stop) :
    Spaced distance start ((start, length) :: ps) stop

namespace Spaced

variable {distance start stop : Rat} {ps : List (Rat × Rat)}

theorem head? (hps : Spaced distance start ps stop) : ∃ p, ps.head? = some p ∧ p.1 = start := by
  cases hps with
  | last _ length => exact ⟨(start, length), rfl, rfl⟩
  | cons _ length => exact ⟨(start, length), rfl, rfl⟩

theorem getLast? (hps : Spaced distance start ps stop) :
    ∃ p, ps.getLast? = some p ∧ p.1 + p.2 = stop := by
  induction hps with
  | last start length => exact ⟨(start, length), rfl, rfl⟩
  | cons start length hrest ih =>
    obtain ⟨p, hp, hstop⟩ := ih
    refine ⟨p, ?_, hstop⟩
    rw [List.getLast?_cons, hp]
    rfl

theorem isChain (hps : Spaced distance start ps stop) :
    ps.IsChain fun p q => q.1 = p.1 + p.2 + distance := by
  induction hps with
  | last start length => exact .singleton _
  | cons start length hrest ih =>
    rw [List.isChain_cons]
    refine ⟨fun q hq => ?_, ih⟩
    obtain ⟨p, hp, hstart⟩ := hrest.head?
    rw [hp, Option.mem_some_iff] at hq
    rw [← hq, hstart]

/-- If no length and no distance is negative, no piece lies before the start. -/
theorem le_of_mem (hps : Spaced distance start ps stop) (hdistance : 0 ≤ distance)
    (hlengths : ∀ p ∈ ps, 0 ≤ p.2) : ∀ p ∈ ps, start ≤ p.1 := by
  induction hps with
  | last start length => simp
  | cons start length hrest ih =>
    obtain ⟨hlength, htail⟩ := List.forall_mem_cons.mp hlengths
    intro p hp
    rcases List.mem_cons.mp hp with rfl | hp
    · exact le_rfl
    · have hbehind := ih htail p hp
      dsimp only at hlength
      linarith

theorem pairwise (hps : Spaced distance start ps stop) (hdistance : 0 ≤ distance)
    (hlengths : ∀ p ∈ ps, 0 ≤ p.2) : ps.Pairwise fun p q => p.1 + p.2 ≤ q.1 := by
  induction hps with
  | last start length => exact List.pairwise_singleton _ _
  | cons start length hrest ih =>
    obtain ⟨-, htail⟩ := List.forall_mem_cons.mp hlengths
    refine List.pairwise_cons.mpr ⟨fun q hq => ?_, ih htail⟩
    have hbehind := hrest.le_of_mem hdistance htail q hq
    dsimp only
    linarith

end Spaced

theorem spaced_offsetsFrom {sizes : List Rat} (hsizes : sizes ≠ []) (gap spacing cursor : Rat) :
    Spaced (gap + spacing) cursor ((offsetsFrom gap spacing cursor sizes).zip sizes)
      (cursor + Scalar.total sizes + (gap + spacing) * (sizes.length - 1 : Nat)) := by
  rw [Scalar.total_eq_sum]
  induction sizes generalizing cursor with
  | nil => exact absurd rfl hsizes
  | cons size sizes ih =>
    rw [offsetsFrom, List.zip_cons_cons]
    cases sizes with
    | nil =>
      have hstop : cursor + [size].sum + (gap + spacing) * ([size].length - 1 : Nat) = cursor + size := by
        simp
      rw [hstop]
      exact .last cursor size
    | cons next sizes =>
      have hnext : cursor + (size + gap + spacing) = cursor + size + (gap + spacing) := by ring
      -- The rest stops where the whole does: both count the same lengths and distances.
      have hrest := ih (List.cons_ne_nil next sizes) (cursor + (size + gap + spacing))
      have hstop : cursor + (size + gap + spacing) + (next :: sizes).sum +
            (gap + spacing) * ((next :: sizes).length - 1 : Nat) =
          cursor + (size :: next :: sizes).sum +
            (gap + spacing) * ((size :: next :: sizes).length - 1 : Nat) := by
        simp only [List.sum_cons, List.length_cons, Nat.add_sub_cancel, Nat.cast_add, Nat.cast_one]
        ring
      rw [hstop] at hrest
      rw [hnext] at hrest ⊢
      exact .cons cursor size hrest

namespace FlexBox

variable {α σ : Type} [Scalar α]

/-- Along the main axis the frames of a row are what sizing and arranging have made of it. -/
theorem edges_frames (c : FlexBox α) (measured : List (Slot (Item α) × Size α)) :
    let sizes := (distribute (measured.map fun m => c.demand m.1.item m.2) (c.room measured.length)).sizes
    (c.frames measured).map (fun f =>
        (c.config.direction.leading f.2, c.config.direction.extent f.2)) =
      (arrange c.config.justify sizes (c.room measured.length) c.config.gap).zip sizes := by
  intro sizes
  let starts := arrange c.config.justify sizes (c.room measured.length) c.config.gap
  have hframes : (c.frames measured).map (fun f =>
      (c.config.direction.leading f.2, c.config.direction.extent f.2)) =
        (measured.zip (starts.zip sizes)).map Prod.snd := by
    rw [frames, List.map_map]
    refine List.map_congr_left fun p _ => ?_
    exact Prod.ext (Direction.leading_frame _ _ _ _ _) (Direction.extent_frame _ _ _ _ _)
  rw [hframes]
  apply List.map_snd_zip
  rw [List.length_zip, length_arrange, length_distribute, List.length_map]
  omega

def lengths (c : FlexBox Rat) (measured : List (Slot (Item Rat) × Size Rat)) : List Rat :=
  (distribute (measured.map fun m => c.demand m.1.item m.2) (c.room measured.length)).sizes

theorem length_lengths (c : FlexBox Rat) (measured : List (Slot (Item Rat) × Size Rat)) :
    (c.lengths measured).length = measured.length := by
  rw [lengths, length_distribute, List.length_map]

/-- Where and how long the frames of a row are along the main axis. -/
def pieces (c : FlexBox Rat) (frames : List (Rect Rat)) : List (Rat × Rat) :=
  frames.map fun r => (c.config.direction.leading r, c.config.direction.extent r)

theorem pieces_frames (c : FlexBox Rat) (measured : List (Slot (Item Rat) × Size Rat)) :
    c.pieces ((c.frames measured).map Prod.snd) =
      (arrange c.config.justify (c.lengths measured) (c.room measured.length) c.config.gap).zip
        (c.lengths measured) := by
  rw [pieces, List.map_map]
  exact c.edges_frames measured

theorem extents_frames (c : FlexBox Rat) (measured : List (Slot (Item Rat) × Size Rat)) :
    ((c.frames measured).map Prod.snd).map c.config.direction.extent = c.lengths measured := by
  have hsecond := congrArg (List.map Prod.snd) (c.pieces_frames measured)
  rw [pieces, List.map_map] at hsecond
  refine hsecond.trans (List.map_snd_zip ?_)
  rw [length_arrange]

/-- The frames of a row follow each other, the gap and the extra room of the justification apart. -/
theorem spaced_frames (c : FlexBox Rat) {measured : List (Slot (Item Rat) × Size Rat)}
    (hmeasured : measured ≠ []) :
    let free := c.room measured.length - Scalar.total (c.lengths measured)
    let lead := (c.config.justify.leadAndSpacing free measured.length).1
    let distance := c.config.gap + (c.config.justify.leadAndSpacing free measured.length).2
    Spaced distance lead (c.pieces ((c.frames measured).map Prod.snd))
      (lead + Scalar.total (c.lengths measured) + distance * (measured.length - 1 : Nat)) := by
  have hlengths : c.lengths measured ≠ [] := by
    rw [← List.length_pos_iff, length_lengths]
    exact List.length_pos_iff.mpr hmeasured
  have hspaced := spaced_offsetsFrom hlengths c.config.gap
  rw [pieces_frames, arrange, length_lengths] at *
  exact hspaced _ _

section

variable {c : FlexBox Rat} {measured : List (Slot (Item Rat) × Size Rat)}

theorem length_of_measured (hmeasured : measured.map Prod.fst = c.items.inOrder Item.order) :
    measured.length = c.items.size := by
  rw [← List.length_map Prod.fst, hmeasured, Registry.length_inOrder]

theorem ne_nil_of_measured (hready : c.isReady = true)
    (hmeasured : measured.map Prod.fst = c.items.inOrder Item.order) : measured ≠ [] := by
  intro hnone
  rw [hnone, List.map_nil] at hmeasured
  exact Registry.inOrder_ne_nil_of_ready hready hmeasured.symm

theorem length_frames (c : FlexBox Rat) (measured : List (Slot (Item Rat) × Size Rat)) :
    (c.frames measured).length = measured.length := by
  rw [← List.length_map Prod.fst, frames_fst, List.length_map]

/-- The frames belong to the measured items in turn. -/
theorem frames_in_turn (c : FlexBox Rat) (measured : List (Slot (Item Rat) × Size Rat)) :
    (c.frames measured).map (fun f => (f.1.item.widget, Placement.frame f.2)) =
      ((measured.map Prod.fst).zip ((c.frames measured).map Prod.snd)).map
        fun f => (f.1.item.widget, .frame f.2) := by
  rw [← c.frames_fst, List.zip_map', List.map_map]
  rfl

end

omit [Scalar α] in
theorem placements_visits (ms : List (Slot (Item α) × Except HostError (Size α)))
    (ps : List ((Slot (Item α) × Rect α) × Except HostError Unit)) :
    placements ((visits ms ps).map Visit.exchange) =
      ps.map fun p => (p.1.1.item.widget, .frame p.1.2) := by
  have hmeasuring : placements ((ms.map fun m => measuring m.1 m.2).map Visit.exchange) = [] := by
    rw [placements, List.filterMap_map, List.filterMap_map]
    exact List.filterMap_eq_nil_iff.mpr fun _ _ => rfl
  rw [visits, List.map_append, placements_append, hmeasuring, List.nil_append, placements,
    List.filterMap_map, List.filterMap_map]
  exact congrFun List.filterMap_eq_map' ps

omit [Scalar α] in
theorem measurements_visits (ms : List (Slot (Item α) × Except HostError (Size α)))
    (ps : List ((Slot (Item α) × Rect α) × Except HostError Unit)) :
    measurements ((visits ms ps).map Visit.exchange) = (answered ms).map Prod.snd := by
  have hplacing : measurements ((ps.map fun p => placing p.1 p.2).map Visit.exchange) = [] := by
    rw [measurements, List.filterMap_map, List.filterMap_map]
    exact List.filterMap_eq_nil_iff.mpr fun _ _ => rfl
  rw [visits, List.map_append, measurements_append, hplacing, List.append_nil]
  induction ms with
  | nil => rfl
  | cons m ms ih =>
    obtain ⟨s, a⟩ := m
    cases a with
    | ok size => exact congrArg (size :: ·) ih
    | error e => exact ih

/-- A pass in which every call is carried out measures all items, and places them in the frames that
belong to the sizes measured. -/
theorem relayout_measured {h : Host Rat σ} {c : FlexBox Rat} {s : σ} {log es : List (Exchange Rat)}
    (hready : c.isReady = true) (hcalls : (c.relayout h.transcribed (s, log)).2.2 = log ++ es)
    (hdone : ∀ e ∈ es, e.refused = false) :
    let order := c.items.inOrder Item.order
    let measured := order.zip (measurements es)
    measured.map Prod.fst = order ∧
      (attempt (fun b => h.transcribed.measure b.item.widget) order (s, log)).1.1 = measured ∧
      placements es = (c.frames measured).map fun f => (f.1.item.widget, .frame f.2) := by
  intro order measured
  obtain ⟨ms, s₁, hms, hmeasured⟩ := measure_visits h c s log
  obtain ⟨ps, s', hps, hpass⟩ := pass_of_measured h c hmeasured
  rw [relayout_eq, if_pos hready, hpass] at hcalls
  obtain rfl : (visits ms ps).map Visit.exchange = es := List.append_cancel_left hcalls
  have hok : ∀ m ∈ ms, m.2.isOk = true := by
    intro m hm
    have hmem : measuring m.1 m.2 ∈ visits ms ps :=
      List.mem_append_left _ (List.mem_map_of_mem hm)
    have hanswer : (!m.2.isOk) = false := hdone _ (List.mem_map_of_mem hmem)
    rwa [Bool.not_eq_false'] at hanswer
  have hfst : (answered ms).map Prod.fst = order := by
    rw [answered_fst, List.filter_eq_self.mpr hok, hms]
  have hall : answered ms = measured := List.zip_of_prod hfst (measurements_visits ms ps).symm
  refine ⟨?_, ?_, ?_⟩
  · rw [← hall, hfst]
  · rw [hmeasured, hall]
  · rw [placements_visits, ← hall, ← hps, List.map_map]
    rfl

theorem relayout_frames {h : Host Rat σ} {c : FlexBox Rat} {s : σ} {log es : List (Exchange Rat)}
    (hready : c.isReady = true) (hcalls : (c.relayout h.transcribed (s, log)).2.2 = log ++ es)
    (hdone : ∀ e ∈ es, e.refused = false) :
    ∃ measured : List (Slot (Item Rat) × Size Rat),
      measured.map Prod.fst = c.items.inOrder Item.order ∧
        placements es = (c.frames measured).map fun f => (f.1.item.widget, .frame f.2) := by
  obtain ⟨hmeasured, -, hplaced⟩ := relayout_measured hready hcalls hdone
  exact ⟨_, hmeasured, hplaced⟩

end FlexBox

end ResponsiveLayout
