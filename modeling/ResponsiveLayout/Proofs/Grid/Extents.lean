import Mathlib.Algebra.Order.Field.Rat
import Mathlib.Tactic.FieldSimp
import Mathlib.Tactic.Linarith
import Mathlib.Tactic.Ring
import ResponsiveLayout.Proofs.Container.Visits
import ResponsiveLayout.Proofs.Scalar

/-! Extents of runs of tracks, with exact lengths. Each track ends where the gap before the next one begins,
so that neighbouring runs meet at a gap and the runs to the last track end at the width. The cells of a row of
a grid therefore lie side by side within the width. -/
namespace ResponsiveLayout

namespace Tracks

/-- Tracks with some weight, and a width that leaves room for their gaps. -/
structure FitsIn (t : Tracks ℚ) (width : ℚ) : Prop where
  count : t.weights.length ≤ 65535
  weight : 0 < weightOf t.weights
  gap : 0 ≤ t.gap
  room : t.gap * ((t.weights.length - 1 : ℕ) : ℚ) ≤ width

/-- Where the track at a place starts; behind the last track comes one more gap. -/
def edge (t : Tracks ℚ) (width : ℚ) (i : ℕ) : ℚ :=
  (weightOf (t.weights.take i) : ℚ) * t.unit width + (i : ℚ) * t.gap

theorem weightOf_append (ws ws' : List UInt16) : weightOf (ws ++ ws') = weightOf ws + weightOf ws' := by
  induction ws with
  | nil => exact (Nat.zero_add _).symm
  | cons w ws ih =>
    change w.toNat + weightOf (ws ++ ws') = w.toNat + weightOf ws + weightOf ws'
    rw [ih, Nat.add_assoc]

theorem weightOf_take_add_drop (ws : List UInt16) (i : ℕ) :
    weightOf (ws.take i) + weightOf (ws.drop i) = weightOf ws := by
  rw [← weightOf_append, List.take_append_drop]

theorem weightOf_le (ws : List UInt16) : weightOf ws ≤ 65535 * ws.length := by
  induction ws with
  | nil => exact le_rfl
  | cons w ws ih =>
    have hw := w.toNat_lt
    change w.toNat + weightOf ws ≤ 65535 * (ws.length + 1)
    omega

theorem weightOf_drop_take (ws : List UInt16) {i j : ℕ} (hij : i ≤ j) :
    weightOf (ws.take i) + weightOf ((ws.take j).drop i) = weightOf (ws.take j) := by
  have hsplit := weightOf_take_add_drop (ws.take j) i
  rwa [List.take_take, min_eq_left hij] at hsplit

theorem weightOf_take_mono (ws : List UInt16) {i j : ℕ} (hij : i ≤ j) :
    weightOf (ws.take i) ≤ weightOf (ws.take j) := by
  have hsplit := weightOf_drop_take ws hij
  omega

theorem unit_nonneg (t : Tracks ℚ) (width : ℚ) : 0 ≤ t.unit width := by
  rw [unit, Scalar.positive_eq_max]
  exact le_max_left _ _

theorem edge_zero (t : Tracks ℚ) (width : ℚ) : t.edge width 0 = 0 := by
  simp [edge, weightOf]

/-- A track and the gap behind it end before the next one starts. -/
theorem edge_add_gap_le {t : Tracks ℚ} (hgap : 0 ≤ t.gap) (width : ℚ) {i j : ℕ} (hij : i < j) :
    t.edge width i + t.gap ≤ t.edge width j := by
  have hweight : (weightOf (t.weights.take i) : ℚ) ≤ weightOf (t.weights.take j) := by
    exact_mod_cast weightOf_take_mono t.weights hij.le
  have hcount : (i : ℚ) + 1 ≤ j := by exact_mod_cast hij
  have hunits := mul_le_mul_of_nonneg_right hweight (t.unit_nonneg width)
  have hgaps := mul_le_mul_of_nonneg_right hcount hgap
  rw [edge, edge]
  linarith

theorem extent_outside (t : Tracks ℚ) (width : ℚ) {col span : UInt16}
    (hempty : t.weights.length ≤ col.toNat ∨ span = 0) : t.extent col span width = (0, 0) :=
  if_pos (.inr hempty.symm)

theorem edge_mono {t : Tracks ℚ} (hgap : 0 ≤ t.gap) (width : ℚ) {i j : ℕ} (hij : i ≤ j) :
    t.edge width i ≤ t.edge width j := by
  rcases hij.lt_or_eq with hij | rfl
  · exact (le_add_of_nonneg_right hgap).trans (edge_add_gap_le hgap width hij)
  · exact le_rfl

/-- A run starts at the edge of its first track and ends a gap before the track behind it. -/
theorem extent_eq_edges {t : Tracks ℚ} (ht : 0 < weightOf t.weights) {col span : UInt16} (width : ℚ)
    (hcol : col.toNat < t.weights.length) (hspan : span ≠ 0) :
    t.extent col span width =
      (t.edge width col.toNat,
        t.edge width (min (col.toNat + span.toNat) t.weights.length) - t.gap - t.edge width col.toNat) := by
  have hrun : 0 < span.toNat := UInt16.lt_iff_toNat_lt.mp (UInt16.pos_iff_ne_zero.mpr hspan)
  have hsome : ¬ (weightOf t.weights = 0 ∨ span = 0 ∨ t.weights.length ≤ col.toNat) := by
    rintro (h | h | h)
    · omega
    · exact hspan h
    · omega
  obtain ⟨last, hlast⟩ : ∃ last, last = min (col.toNat + span.toNat) t.weights.length := ⟨_, rfl⟩
  have hrises : col.toNat < last := by omega
  have hcovered : (weightOf (t.weights.take col.toNat) : ℚ) +
      weightOf ((t.weights.take last).drop col.toNat) = weightOf (t.weights.take last) := by
    exact_mod_cast weightOf_drop_take t.weights hrises.le
  have hbetween : ((last - col.toNat - 1 : ℕ) : ℚ) = last - col.toNat - 1 := by
    rw [Nat.sub_sub, Nat.cast_sub hrises]
    push_cast
    ring
  rw [extent, if_neg hsome, ← hlast, edge, edge]
  refine Prod.ext rfl ?_
  change (weightOf ((t.weights.take last).drop col.toNat) : ℚ) * t.unit width +
    ((last - col.toNat - 1 : ℕ) : ℚ) * t.gap = _
  rw [hbetween, ← hcovered]
  ring

/-- That the runs of tracks fill a width: they meet at gaps, from zero to the width, and nothing that is
counted on the way is too great for 32 bits. -/
structure Tiles (t : Tracks ℚ) (width : ℚ) : Prop where
  first : ∀ span : UInt16, (t.extent 0 span width).1 = 0
  next : ∀ col span next rest : UInt16, span ≠ 0 → rest ≠ 0 → next.toNat = col.toNat + span.toNat →
    next.toNat < t.weights.length →
    (t.extent col span width).1 + (t.extent col span width).2 + t.gap = (t.extent next rest width).1
  last : ∀ col span : UInt16, col.toNat < t.weights.length → span ≠ 0 →
    t.weights.length ≤ col.toNat + span.toNat →
    (t.extent col span width).1 + (t.extent col span width).2 = width
  split : ∀ col span next rest whole : UInt16, span ≠ 0 → rest ≠ 0 →
    next.toNat = col.toNat + span.toNat → whole.toNat = span.toNat + rest.toNat →
    next.toNat < t.weights.length →
    (t.extent col whole width).2 = (t.extent col span width).2 + t.gap + (t.extent next rest width).2
  inside : ∀ col span : UInt16, 0 ≤ (t.extent col span width).1 ∧ 0 ≤ (t.extent col span width).2 ∧
    (t.extent col span width).1 + (t.extent col span width).2 ≤ width
  outside : ∀ col span : UInt16, t.weights.length ≤ col.toNat ∨ span = 0 →
    t.extent col span width = (0, 0)
  sums_lt : ∀ i j, weightOf ((t.weights.take j).drop i) < 2 ^ 32
  places_lt : ∀ col span : UInt16, col.toNat + span.toNat < 2 ^ 32 ∧
    (col.toNat < t.weights.length → span ≠ 0 →
      col.toNat < min (col.toNat + span.toNat) t.weights.length)

namespace FitsIn

variable {t : Tracks ℚ} {width : ℚ}

theorem length_pos (ht : t.FitsIn width) : 0 < t.weights.length := by
  refine List.length_pos_iff.mpr fun hnil => ?_
  have hweight := ht.weight
  rw [hnil] at hweight
  exact absurd hweight (lt_irrefl 0)

theorem width_nonneg (ht : t.FitsIn width) : 0 ≤ width :=
  (mul_nonneg ht.gap (Nat.cast_nonneg _)).trans ht.room

theorem edge_length (ht : t.FitsIn width) : t.edge width t.weights.length = width + t.gap := by
  have hweight : (0 : ℚ) < weightOf t.weights := by exact_mod_cast ht.weight
  have hgaps : ((t.weights.length - 1 : ℕ) : ℚ) = t.weights.length - 1 := by
    rw [Nat.cast_sub ht.length_pos, Nat.cast_one]
  have hroom := ht.room
  have hunit : t.unit width = (width - t.gap * ((t.weights.length - 1 : ℕ) : ℚ)) / weightOf t.weights := by
    rw [unit, Scalar.positive_eq_max]
    exact max_eq_right (div_nonneg (sub_nonneg.mpr hroom) hweight.le)
  rw [edge, List.take_length, hunit, hgaps, mul_div_cancel₀ _ hweight.ne']
  ring

theorem edge_nonneg (ht : t.FitsIn width) (i : ℕ) : 0 ≤ t.edge width i :=
  (t.edge_zero width).ge.trans (edge_mono ht.gap width i.zero_le)

/-- No run ends behind the width. -/
theorem edge_le (ht : t.FitsIn width) {i : ℕ} (hi : i ≤ t.weights.length) :
    t.edge width i ≤ width + t.gap :=
  (edge_mono ht.gap width hi).trans ht.edge_length.le

/-- A run that starts behind another one starts at least a gap behind it. -/
theorem extent_apart (ht : t.FitsIn width) {col span col' span' : UInt16} (hspan : span ≠ 0)
    (hspan' : span' ≠ 0) (hbehind : col.toNat + span.toNat ≤ col'.toNat)
    (hcol' : col'.toNat < t.weights.length) :
    (t.extent col span width).1 + (t.extent col span width).2 + t.gap ≤ (t.extent col' span' width).1 := by
  rw [extent_eq_edges ht.weight width (by omega) hspan, extent_eq_edges ht.weight width hcol' hspan',
    min_eq_left (by omega)]
  have hmono := edge_mono ht.gap width hbehind
  linarith

theorem tiles (ht : t.FitsIn width) : t.Tiles width where
  first span := by
    rcases eq_or_ne span 0 with rfl | hspan
    · rw [t.extent_outside width (.inr rfl)]
    · have hfirst : (0 : UInt16).toNat < t.weights.length := ht.length_pos
      rw [extent_eq_edges ht.weight width hfirst hspan]
      exact t.edge_zero width
  next col span next rest hspan hrest hnext hlt := by
    rw [extent_eq_edges ht.weight width (by omega) hspan, extent_eq_edges ht.weight width hlt hrest,
      min_eq_left (by omega), hnext]
    ring
  last col span hcol hspan hcut := by
    rw [extent_eq_edges ht.weight width hcol hspan, min_eq_right hcut, ht.edge_length]
    ring
  split col span next rest whole hspan hrest hnext hwhole hlt := by
    have hwhole_ne : whole ≠ 0 := by
      rintro rfl
      have hpos : 0 < span.toNat := UInt16.lt_iff_toNat_lt.mp (UInt16.pos_iff_ne_zero.mpr hspan)
      change 0 = _ at hwhole
      omega
    have hends : col.toNat + whole.toNat = next.toNat + rest.toNat := by omega
    have hcut : min (col.toNat + span.toNat) t.weights.length = next.toNat := by omega
    rw [extent_eq_edges ht.weight width (by omega) hwhole_ne,
      extent_eq_edges ht.weight width (by omega) hspan, extent_eq_edges ht.weight width hlt hrest, hcut,
      hends]
    ring
  inside col span := by
    by_cases hempty : t.weights.length ≤ col.toNat ∨ span = 0
    · rw [t.extent_outside width hempty]
      exact ⟨le_rfl, le_rfl, by simpa using ht.width_nonneg⟩
    · obtain ⟨hcol, hspan⟩ := not_or.mp hempty
      have hrun : 0 < span.toNat := UInt16.lt_iff_toNat_lt.mp (UInt16.pos_iff_ne_zero.mpr hspan)
      have hrises : col.toNat < min (col.toNat + span.toNat) t.weights.length := by omega
      have hlength := edge_add_gap_le ht.gap width hrises
      have hend := ht.edge_le (min_le_right (col.toNat + span.toNat) t.weights.length)
      rw [extent_eq_edges ht.weight width (not_le.mp hcol) hspan]
      exact ⟨ht.edge_nonneg _, by linarith, by linarith⟩
  outside col span hempty := t.extent_outside width hempty
  sums_lt i j := by
    have hsum := weightOf_le ((t.weights.take j).drop i)
    have hcount := ht.count
    rw [List.length_drop, List.length_take] at hsum
    omega
  places_lt col span := by
    have hcol := col.toNat_lt
    have hspan := span.toNat_lt
    refine ⟨by omega, fun hlt hne => ?_⟩
    have hpos : 0 < span.toNat := UInt16.lt_iff_toNat_lt.mp (UInt16.pos_iff_ne_zero.mpr hne)
    omega

end FitsIn

end Tracks

namespace Grid

variable {α σ : Type} {g : Grid α} {c : Cursor} {t u : Trial α} {before after : List (Trial α)}
  {xs : List (Slot (Item α) × Except HostError Unit)}

/-- What is tried after a trial is tried from the place behind it. -/
theorem trials_split (hxs : g.trials c xs = before ++ t :: after) :
    ∃ c' xs', t = g.trial c' t.slot t.answer ∧ g.trials (g.behind c' t.slot t.answer) xs' = after := by
  induction before generalizing c xs with
  | nil =>
    cases xs with
    | nil => cases hxs
    | cons x xs =>
      obtain ⟨rfl, hafter⟩ := List.cons.inj hxs
      exact ⟨c, xs, rfl, hafter⟩
  | cons v before ih =>
    cases xs with
    | nil => cases hxs
    | cons x xs => exact ih (List.cons.inj hxs).2

theorem spot_of_row {s : Slot (Item α)} {a : Except HostError Unit}
    (hrow : (g.trial c s a).cell.row = c.row) : g.spot c s = c := by
  by_cases hw : g.Wraps c s
  · rw [trial_row, spot_of_wraps hw] at hrow
    exact absurd hrow c.below_ne
  · exact spot_of_not_wraps hw

/-- As long as the row stays the same, cells are tried further and further to the right. -/
theorem col_le_of_row (hxs : g.trials c xs = before ++ u :: after)
    (hrow : ∀ v ∈ before ++ [u], v.cell.row = c.row) : c.col.toNat ≤ u.cell.col.toNat := by
  induction before generalizing c xs with
  | nil =>
    cases xs with
    | nil => cases hxs
    | cons x xs =>
      obtain ⟨rfl, -⟩ := List.cons.inj hxs
      rw [trial_col, spot_of_row (hrow _ (List.mem_singleton_self _))]
  | cons v before ih =>
    cases xs with
    | nil => cases hxs
    | cons x xs =>
      obtain ⟨rfl, hrest⟩ := List.cons.inj hxs
      obtain ⟨hfirst, hothers⟩ := List.forall_mem_cons.mp hrow
      -- In the same row nothing has wrapped around, so the place behind is not further to the left.
      have hstep : c.col.toNat ≤ (g.behind c x.1 x.2).col.toNat := by
        have hfree := col_le_free g c x.1 x.2
        rwa [spot_of_row hfirst, ← behind_col] at hfree
      refine hstep.trans (ih hrest fun w hw => ?_)
      rw [hothers w hw, behind_row, hfirst]

/-- Behind an accepted item the cells of its row leave its columns free. -/
theorem cells_apart {between : List (Trial α)} (hxs : g.trials c xs = before ++ t :: (between ++ u :: after))
    (haccepted : t.accepted = true) (hrow : ∀ v ∈ between ++ [u], v.cell.row = t.cell.row) :
    t.cell.col.toNat + t.cell.colSpan.toNat ≤ u.cell.col.toNat := by
  obtain ⟨c', xs', htrial, hrest⟩ := trials_split hxs
  have hbehind : ∀ v ∈ between ++ [u], v.cell.row = (g.behind c' t.slot t.answer).row := by
    intro v hv
    rw [hrow v hv, behind_row, ← htrial]
  have hle := col_le_of_row hrest hbehind
  rwa [behind_col, ← htrial, Trial.free, if_pos haccepted] at hle

/-- A cell never reaches over the last column. -/
theorem cell_fits (hxs : t ∈ g.trials c xs) :
    t.cell.colSpan ≠ 0 ∧ t.cell.col.toNat + t.cell.colSpan.toNat ≤ g.columns.toNat := by
  obtain ⟨before, after, hsplit⟩ := List.append_of_mem hxs
  obtain ⟨c', xs', htrial, -⟩ := trials_split hsplit
  rw [htrial, trial_col, trial_colSpan]
  refine ⟨fun hzero => ?_, spot_fits g c' t.slot⟩
  have hpos := g.spanOf_pos t.slot.item
  rw [hzero] at hpos
  exact absurd hpos (Nat.lt_irrefl 0)

/-- While the rows are counted without wrapping around, a row number means one row. -/
theorem cells_apart_of_row (hsize : xs.length < 2 ^ 32) (hxs : g.trials ⟨0, 0⟩ xs = before ++ u :: after)
    (ht : t ∈ before) (haccepted : t.accepted = true) (hrow : t.cell.row = u.cell.row) :
    t.cell.col.toNat + t.cell.colSpan.toNat ≤ u.cell.col.toNat := by
  have hstart : g.Fills [] ⟨0, 0⟩ := .start
  have hcount : ([] : List (Trial α)).length + xs.length < 2 ^ 32 := by simpa using hsize
  obtain ⟨c, hfills⟩ := hstart.trials hcount
  obtain ⟨c', hbefore, hlt, htrial⟩ := hfills.split hxs
  -- What was accepted in the row of a spot lies to its left.
  have hspot : Surveyed before (g.spot c' u.slot) :=
    hbefore.surveyed.1.spot (hbefore.row_lt hlt) u.slot
  rw [htrial, trial_row] at hrow
  rw [htrial, trial_col]
  exact hspot.passed t ht haccepted hrow

section

variable {g : Grid ℚ} {width : ℚ}

def stretch (g : Grid ℚ) (width : ℚ) (t : Trial ℚ) : ℚ × ℚ :=
  g.tracks.extent t.cell.col t.cell.colSpan width

/-- Two stretches with the gap of the grid, or more, between them. -/
def Clears (g : Grid ℚ) (width : ℚ) (t u : Trial ℚ) : Prop :=
  (g.stretch width t).1 + (g.stretch width t).2 + g.gap ≤ (g.stretch width u).1

/-- That the accepted items of every row lie side by side in a width. A row lasts as long as its number
comes up without a break; below 2^32 items each number comes up in one row only. -/
structure SideBySide (g : Grid ℚ) (width : ℚ) (ts : List (Trial ℚ)) : Prop where
  inside : ∀ t ∈ ts, 0 ≤ (g.stretch width t).1 ∧ 0 ≤ (g.stretch width t).2 ∧
    (g.stretch width t).1 + (g.stretch width t).2 ≤ width
  clears : ∀ before t between u after, ts = before ++ t :: (between ++ u :: after) → t.accepted = true →
    (∀ v ∈ between ++ [u], v.cell.row = t.cell.row) → g.Clears width t u
  clears_of_row : g.items.size < 2 ^ 32 → ∀ before u after, ts = before ++ u :: after →
    ∀ t ∈ before, t.accepted = true → t.cell.row = u.cell.row → g.Clears width t u

theorem clears_of_behind {xs : List (Slot (Item ℚ) × Except HostError Unit)} {t u : Trial ℚ}
    (hfits : g.tracks.FitsIn width) (ht : t ∈ g.trials c xs) (hu : u ∈ g.trials c xs)
    (hbehind : t.cell.col.toNat + t.cell.colSpan.toNat ≤ u.cell.col.toNat) : g.Clears width t u := by
  obtain ⟨hspan, -⟩ := cell_fits ht
  obtain ⟨hspan', hfit⟩ := cell_fits hu
  have hpos : 0 < u.cell.colSpan.toNat := UInt16.lt_iff_toNat_lt.mp (UInt16.pos_iff_ne_zero.mpr hspan')
  refine hfits.extent_apart hspan hspan' hbehind ?_
  rw [tracks, Tracks.uniform, List.length_replicate]
  omega

theorem sideBySide_trials {xs : List (Slot (Item ℚ) × Except HostError Unit)}
    (hfits : g.tracks.FitsIn width) (hxs : xs.map Prod.fst = g.items.inOrder Item.order) :
    g.SideBySide width (g.trials ⟨0, 0⟩ xs) where
  inside t _ := hfits.tiles.inside _ _
  clears before t between u after hsplit haccepted hrow := by
    have ht : t ∈ g.trials ⟨0, 0⟩ xs := by simp [hsplit]
    have hu : u ∈ g.trials ⟨0, 0⟩ xs := by simp [hsplit]
    exact clears_of_behind hfits ht hu (cells_apart hsplit haccepted hrow)
  clears_of_row hsize before u after hsplit t ht haccepted hrow := by
    have hlength : xs.length = g.items.size := by
      rw [← List.length_map Prod.fst, hxs, Registry.length_inOrder]
    have htried : t ∈ g.trials ⟨0, 0⟩ xs := by simp [hsplit, ht]
    have hu : u ∈ g.trials ⟨0, 0⟩ xs := by simp [hsplit]
    exact clears_of_behind hfits htried hu
      (cells_apart_of_row (hlength ▸ hsize) hsplit ht haccepted hrow)

end

end Grid

/-- Runs of tracks tile every width that leaves room for the gaps, and so the accepted items of each row of a
grid with these tracks lie side by side in it, whatever the host answers. -/
theorem extents_tile {t : Tracks ℚ} {width : ℚ} (ht : t.FitsIn width) :
    t.Tiles width ∧ ∀ (σ : Type) (h : Host ℚ σ) (g : Grid ℚ) (s : σ) (log : List (Exchange ℚ)),
      g.tracks = t → g.isReady = true →
        ∃ ts : List (Trial ℚ), g.items.Ordered Item.order (ts.map Trial.slot) ∧ g.SideBySide width ts ∧
          (g.relayout h.transcribed (s, log)).2.2 =
            log ++ ⟨.configureGrid t, .carriedOut (.ok ())⟩ :: ts.map Trial.exchange := by
  refine ⟨ht.tiles, ?_⟩
  rintro σ h g s log rfl hready
  obtain ⟨xs, hxs, hlog⟩ := g.pass_trials h s log
  refine ⟨g.trials ⟨0, 0⟩ xs, ?_, g.sideBySide_trials ht hxs, ?_⟩
  · rw [Grid.trials_slot, hxs]
    exact g.items.ordered_inOrder Item.order
  · rw [Grid.relayout_eq, if_pos hready, hlog]

def Grid.halves : Grid ℚ where
  columns := 6
  columns_pos := by decide
  gap := 2
  breakpoints := ⟨Table.ofList [("xs", 0)]⟩
  items := (Registry.empty.add ((Item.ofWidget ⟨1⟩).change (.span "xs" 3))).add
    ((Item.ofWidget ⟨2⟩).change (.span "xs" 3))
  width := 100
  tier := 0
  dirty := false
  passes := 0

theorem extents_tile_halves :
    Grid.halves.tracks.FitsIn 100 ∧ Grid.halves.isReady = true ∧ Grid.halves.tracks.Tiles 100 ∧
      ∃ ts : List (Trial ℚ), Grid.halves.items.Ordered Item.order (ts.map Trial.slot) ∧
        Grid.halves.SideBySide 100 ts ∧
          (Grid.halves.relayout Recorder.host.transcribed (Recorder.empty, [])).2.2 =
            [] ++ ⟨.configureGrid Grid.halves.tracks, .carriedOut (.ok ())⟩ :: ts.map Trial.exchange := by
  have hfits : Grid.halves.tracks.FitsIn 100 := ⟨by decide, by decide, by decide, by decide +kernel⟩
  have htiled := extents_tile hfits
  exact ⟨hfits, by decide, htiled.1, htiled.2 _ Recorder.host Grid.halves _ [] rfl (by decide)⟩

end ResponsiveLayout
