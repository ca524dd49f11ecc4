import Mathlib.Algebra.GroupWithZero.Nat
import ResponsiveLayout.Proofs.Container.Passing
import ResponsiveLayout.Proofs.Grid.Refusal

/-! Filling a grid, whatever the host answers. A pass tries every item once, in order, in a cell that
lies behind the accepted items of its row or starts the next row. So accepted cells never overlap, no
row above the last one tried stays empty, and below 2^32 items no counter wraps around. -/
namespace ResponsiveLayout

variable {α σ : Type}

namespace Cell

def Covers (c : Cell) (row col : Nat) : Prop :=
  c.row.toNat ≤ row ∧ row < c.row.toNat + c.rowSpan.toNat ∧
    c.col.toNat ≤ col ∧ col < c.col.toNat + c.colSpan.toNat

def Disjoint (c d : Cell) : Prop := ∀ row col, ¬ (c.Covers row col ∧ d.Covers row col)

def Precedes (c d : Cell) : Prop := c.row < d.row ∨ c.row = d.row ∧ c.col < d.col

end Cell

/-- An item, the cell that it was tried in, and what the host said. -/
structure Trial (α : Type) where
  slot : Slot (Item α)
  cell : Cell
  answer : Except HostError Unit

namespace Trial

def accepted (t : Trial α) : Bool := t.answer.isOk

def exchange (t : Trial α) : Exchange α :=
  ⟨.place t.slot.item.widget (.cell t.cell), .carriedOut t.answer⟩

/-- The first column that is free behind a trial; a refused item takes none. -/
def free (t : Trial α) : Nat := t.cell.col.toNat + if t.accepted then t.cell.colSpan.toNat else 0

/-- The columns that accepted items take in a row. -/
def taken (ts : List (Trial α)) (row : UInt32) : Nat :=
  ((ts.filter fun t => t.accepted && t.cell.row == row).map fun t => t.cell.colSpan.toNat).sum

theorem taken_eq_zero {ts : List (Trial α)} {row : UInt32}
    (hts : ∀ t ∈ ts, t.accepted = true → t.cell.row ≠ row) : taken ts row = 0 := by
  have hnone : (ts.filter fun t => t.accepted && t.cell.row == row) = [] := by
    rw [List.filter_eq_nil_iff]
    intro t ht hmem
    rw [Bool.and_eq_true, beq_iff_eq] at hmem
    exact hts t ht hmem.1 hmem.2
  rw [taken, hnone]
  rfl

theorem taken_append (ts us : List (Trial α)) (row : UInt32) :
    taken (ts ++ us) row = taken ts row + taken us row := by
  rw [taken, List.filter_append, List.map_append, List.sum_append]
  rfl

theorem taken_singleton (t : Trial α) :
    taken [t] t.cell.row = if t.accepted then t.cell.colSpan.toNat else 0 := by
  cases ht : t.accepted <;> simp [taken, ht]

end Trial

namespace Grid

variable {g : Grid α} {c : Cursor} {s : Slot (Item α)} {ts : List (Trial α)}

theorem spanOf_pos (g : Grid α) (item : Item α) : 0 < (g.spanOf item).toNat := by
  rw [spanOf, toNat_clampSpan]
  omega

theorem spanOf_le (g : Grid α) (item : Item α) : (g.spanOf item).toNat ≤ g.columns.toNat := by
  have hcolumns : 0 < g.columns.toNat := UInt16.lt_iff_toNat_lt.mp g.columns_pos
  rw [spanOf, toNat_clampSpan]
  omega

/-- An item is never tried across the right edge. -/
theorem spot_fits (g : Grid α) (c : Cursor) (s : Slot (Item α)) :
    (g.spot c s).col.toNat + (g.spanOf s.item).toNat ≤ g.columns.toNat := by
  by_cases hw : g.Wraps c s
  · rw [spot_of_wraps hw]
    change 0 + _ ≤ _
    have hle := spanOf_le g s.item
    omega
  · rw [spot_of_not_wraps hw]
    exact Nat.le_of_not_lt hw

theorem toNat_below_row (hrow : c.row.toNat + 1 < 2 ^ 32) : c.below.row.toNat = c.row.toNat + 1 := by
  rw [Cursor.below, UInt32.toNat_add]
  exact Nat.mod_eq_of_lt hrow

/-- The trial of an item from a cursor on. -/
def trial (g : Grid α) (c : Cursor) (s : Slot (Item α)) (a : Except HostError Unit) : Trial α :=
  ⟨s, (g.spot c s).cell (g.spanOf s.item), a⟩

def behind (g : Grid α) (c : Cursor) (s : Slot (Item α)) (a : Except HostError Unit) : Cursor :=
  if a.isOk then g.past c s else g.spot c s

/-- The trials of some items that the host gives certain answers for. -/
def trials (g : Grid α) : Cursor → List (Slot (Item α) × Except HostError Unit) → List (Trial α)
  | _, [] => []
  | c, x :: xs => g.trial c x.1 x.2 :: trials g (g.behind c x.1 x.2) xs

section

variable (g : Grid α) (c : Cursor) (s : Slot (Item α)) (a : Except HostError Unit)

theorem trial_row : (g.trial c s a).cell.row = (g.spot c s).row := by
  rw [trial, Cursor.cell]

theorem trial_col : (g.trial c s a).cell.col = (g.spot c s).col := by
  rw [trial, Cursor.cell]

theorem trial_rowSpan : (g.trial c s a).cell.rowSpan = 1 := by
  rw [trial, Cursor.cell]

theorem trial_colSpan : (g.trial c s a).cell.colSpan = g.spanOf s.item := by
  rw [trial, Cursor.cell]

theorem behind_row : (g.behind c s a).row = (g.trial c s a).cell.row := by
  rw [behind, trial_row]
  split
  · rw [past, Cursor.advance]
  · exact Eq.refl (g.spot c s).row

theorem behind_ok (u : Unit) : g.behind c s (.ok u) = g.past c s := if_pos rfl

theorem behind_error (e : HostError) : g.behind c s (.error e) = g.spot c s :=
  if_neg Bool.false_ne_true

theorem past_col : (g.past c s).col.toNat = (g.spot c s).col.toNat + (g.spanOf s.item).toNat := by
  have hfits := spot_fits g c s
  have hcolumns := g.columns.toNat_lt
  rw [past, Cursor.advance, UInt16.toNat_add]
  exact Nat.mod_eq_of_lt (by omega)

theorem behind_col : (g.behind c s a).col.toNat = (g.trial c s a).free := by
  have haccepted : (g.trial c s a).accepted = a.isOk := by rw [trial, Trial.accepted]
  rw [behind, Trial.free, haccepted, trial_col, trial_colSpan]
  cases a.isOk with
  | true => rw [if_pos rfl, if_pos rfl, past_col]
  | false => rw [if_neg Bool.false_ne_true, if_neg Bool.false_ne_true, Nat.add_zero]

theorem col_le_free : (g.spot c s).col.toNat ≤ (g.trial c s a).free := by
  rw [Trial.free, trial_col]
  exact Nat.le_add_right _ _

end

/-- A grid filled from its first cell on: the trials so far and the next free place. -/
inductive Fills (g : Grid α) : List (Trial α) → Cursor → Prop
  | start : Fills g [] ⟨0, 0⟩
  | put {ts : List (Trial α)} {c : Cursor} (hf : Fills g ts c) (hlt : ts.length + 1 < 2 ^ 32)
      (s : Slot (Item α)) (a : Except HostError Unit) :
      Fills g (ts ++ [g.trial c s a]) (g.behind c s a)

/-- What holds between the trials so far and the next free place, also once the place has moved on
to the next row. -/
structure Surveyed (ts : List (Trial α)) (c : Cursor) : Prop where
  taken : Trial.taken ts c.row = c.col.toNat
  row_le : ∀ t ∈ ts, t.cell.row.toNat ≤ c.row.toNat
  passed : ∀ t ∈ ts, t.accepted = true → t.cell.row = c.row →
    t.cell.col.toNat + t.cell.colSpan.toNat ≤ c.col.toNat
  filled : ∀ row < c.row.toNat, ∃ t ∈ ts, t.accepted = true ∧ t.cell.row.toNat = row

/-- A row is left only when something has been accepted in it. -/
theorem Surveyed.begun (hs : Surveyed ts c) (hcol : 0 < c.col.toNat) :
    ∃ t ∈ ts, t.accepted = true ∧ t.cell.row = c.row := by
  by_contra hnone
  push Not at hnone
  have htaken := hs.taken
  rw [Trial.taken_eq_zero hnone] at htaken
  omega

theorem Surveyed.below (hs : Surveyed ts c) (hcol : 0 < c.col.toNat)
    (hrow : c.row.toNat + 1 < 2 ^ 32) : Surveyed ts c.below := by
  have hbelow := toNat_below_row hrow
  have hne : ∀ t ∈ ts, t.cell.row ≠ c.below.row := by
    intro t ht heq
    have hle := hs.row_le t ht
    rw [heq, hbelow] at hle
    omega
  refine ⟨?_, ?_, ?_, ?_⟩
  · exact Trial.taken_eq_zero fun t ht _ => hne t ht
  · intro t ht
    have hle := hs.row_le t ht
    omega
  · exact fun t ht _ hrow' => absurd hrow' (hne t ht)
  · intro row hlt
    rw [hbelow] at hlt
    by_cases heq : row = c.row.toNat
    · obtain ⟨t, ht, hok, hrow'⟩ := hs.begun hcol
      exact ⟨t, ht, hok, by rw [hrow', heq]⟩
    · exact hs.filled row (by omega)

theorem col_pos_of_wraps (hw : g.Wraps c s) : 0 < c.col.toNat := by
  have hle := spanOf_le g s.item
  have hlt : g.columns.toNat < c.col.toNat + (g.spanOf s.item).toNat := hw
  omega

/-- The step to the place where an item is tried. -/
theorem Surveyed.spot (hs : Surveyed ts c) (hrow : c.row.toNat + 1 < 2 ^ 32)
    (s : Slot (Item α)) : Surveyed ts (g.spot c s) := by
  by_cases hw : g.Wraps c s
  · rw [spot_of_wraps hw]
    exact hs.below (col_pos_of_wraps hw) hrow
  · rwa [spot_of_not_wraps hw]

/-- There are never more rows begun than items tried. -/
theorem Surveyed.spot_row_le (hs : Surveyed ts c) (hrow : c.row.toNat ≤ ts.length - 1)
    (hlt : ts.length + 1 < 2 ^ 32) (s : Slot (Item α)) : (g.spot c s).row.toNat ≤ ts.length := by
  by_cases hw : g.Wraps c s
  · obtain ⟨t, ht, -⟩ := hs.begun (col_pos_of_wraps hw)
    have hpos := List.length_pos_of_mem ht
    rw [spot_of_wraps hw, toNat_below_row (by omega)]
    omega
  · rw [spot_of_not_wraps hw]
    omega

/-- The step from there to the place behind the item. -/
theorem Surveyed.put (hs : Surveyed ts (g.spot c s)) (a : Except HostError Unit) :
    Surveyed (ts ++ [g.trial c s a]) (g.behind c s a) := by
  have hrow := behind_row g c s a
  have hcol := behind_col g c s a
  refine ⟨?_, ?_, ?_, ?_⟩
  · rw [hrow, hcol, Trial.taken_append, Trial.taken_singleton, trial_row, hs.taken, Trial.free,
      trial_col]
  · intro t ht
    rw [hrow, trial_row]
    rcases List.mem_append.mp ht with ht | ht
    · exact hs.row_le t ht
    · rw [List.mem_singleton.mp ht, trial_row]
  · intro t ht hok hrow'
    rw [hrow] at hrow'
    rw [hcol]
    rcases List.mem_append.mp ht with ht | ht
    · rw [trial_row] at hrow'
      exact Nat.le_trans (hs.passed t ht hok hrow') (col_le_free g c s a)
    · rw [List.mem_singleton.mp ht] at hok ⊢
      rw [Trial.free, if_pos hok]
  · intro row hlt
    rw [hrow, trial_row] at hlt
    obtain ⟨t, ht, hfound⟩ := hs.filled row hlt
    exact ⟨t, List.mem_append_left _ ht, hfound⟩

namespace Fills

variable {before after : List (Trial α)} {t u : Trial α}

theorem surveyed (hf : g.Fills ts c) : Surveyed ts c ∧ c.row.toNat ≤ ts.length - 1 := by
  -- The two go together: a row is not left before something is accepted in it, so there are at least
  -- as many trials as rows, and no row wraps around.
  induction hf with
  | start =>
    refine ⟨⟨rfl, ?_, ?_, ?_⟩, Nat.le_refl 0⟩
    · exact fun _ ht => absurd ht List.not_mem_nil
    · exact fun _ ht => absurd ht List.not_mem_nil
    · exact fun row hlt => absurd hlt (Nat.not_lt_zero row)
  | @put ts c hf hlt s a ih =>
    obtain ⟨hs, hrow⟩ := ih
    refine ⟨(hs.spot (by omega) s).put a, ?_⟩
    rw [behind_row, trial_row, List.length_append, List.length_singleton]
    exact hs.spot_row_le hrow hlt s

theorem row_lt (hf : g.Fills ts c) (hlt : ts.length + 1 < 2 ^ 32) : c.row.toNat + 1 < 2 ^ 32 := by
  have hrow := hf.surveyed.2
  omega

/-- Every trial was made from the next free place after the trials before it. -/
theorem split (hf : g.Fills ts c) (hts : ts = before ++ t :: after) :
    ∃ c', g.Fills before c' ∧ before.length + 1 < 2 ^ 32 ∧ t = g.trial c' t.slot t.answer := by
  induction hf generalizing after with
  | start => exact absurd hts.symm (List.append_ne_nil_of_right_ne_nil _ (List.cons_ne_nil _ _))
  | @put ts c hf hlt s a ih =>
    rcases List.eq_nil_or_concat' after with rfl | ⟨after, u, rfl⟩
    · obtain ⟨rfl, hlast⟩ := List.append_inj' hts rfl
      rw [← List.head_eq_of_cons_eq hlast]
      exact ⟨c, hf, hlt, rfl⟩
    · rw [← List.cons_append, ← List.append_assoc] at hts
      exact ih (List.append_inj' hts rfl).1

theorem eq_trial (hf : g.Fills ts c) (ht : t ∈ ts) : ∃ c', t = g.trial c' t.slot t.answer := by
  obtain ⟨before, after, hts⟩ := List.append_of_mem ht
  obtain ⟨c', -, -, htrial⟩ := hf.split hts
  exact ⟨c', htrial⟩

theorem rowSpan_eq (hf : g.Fills ts c) (ht : t ∈ ts) : t.cell.rowSpan = 1 := by
  obtain ⟨c', htrial⟩ := hf.eq_trial ht
  rw [htrial, trial_rowSpan]

theorem colSpan_eq (hf : g.Fills ts c) (ht : t ∈ ts) : t.cell.colSpan = g.spanOf t.slot.item := by
  obtain ⟨c', htrial⟩ := hf.eq_trial ht
  rw [htrial, trial_colSpan, trial]

theorem colSpan_pos (hf : g.Fills ts c) (ht : t ∈ ts) : 0 < t.cell.colSpan.toNat := by
  rw [hf.colSpan_eq ht]
  exact spanOf_pos g _

theorem fits (hf : g.Fills ts c) (ht : t ∈ ts) :
    t.cell.col.toNat + t.cell.colSpan.toNat ≤ g.columns.toNat := by
  obtain ⟨c', htrial⟩ := hf.eq_trial ht
  rw [htrial, trial_col, trial_colSpan]
  exact spot_fits g c' t.slot

theorem col_eq (hf : g.Fills ts c) (hts : ts = before ++ t :: after) :
    t.cell.col.toNat = Trial.taken before t.cell.row := by
  obtain ⟨c', hf', hlt, htrial⟩ := hf.split hts
  rw [htrial, trial_col, trial_row]
  exact (hf'.surveyed.1.spot (hf'.row_lt hlt) t.slot).taken.symm

theorem row_filled (hf : g.Fills ts c) (ht : t ∈ ts) {row : Nat} (hrow : row < t.cell.row.toNat) :
    ∃ u ∈ ts, u.accepted = true ∧ u.cell.row.toNat = row := by
  obtain ⟨before, after, hts⟩ := List.append_of_mem ht
  obtain ⟨c', hf', hlt, htrial⟩ := hf.split hts
  rw [htrial, trial_row] at hrow
  obtain ⟨u, hu, hfound⟩ := (hf'.surveyed.1.spot (hf'.row_lt hlt) t.slot).filled row hrow
  rw [hts]
  exact ⟨u, List.mem_append_left _ hu, hfound⟩

theorem row_no_wraparound (hf : g.Fills ts c) (ht : t ∈ ts) : t.cell.row.toNat + 1 < 2 ^ 32 := by
  obtain ⟨before, after, hts⟩ := List.append_of_mem ht
  obtain ⟨c', hf', hlt, htrial⟩ := hf.split hts
  have hle : t.cell.row.toNat ≤ before.length := by
    rw [htrial, trial_row]
    exact hf'.surveyed.1.spot_row_le hf'.surveyed.2 hlt t.slot
  omega

theorem eq_start (hf : g.Fills [] c) : c = ⟨0, 0⟩ := by
  generalize hts : [] = ts at hf
  cases hf with
  | start => rfl
  | put hf hlt s a =>
    exact absurd hts.symm (List.append_ne_nil_of_right_ne_nil _ (List.cons_ne_nil _ _))

theorem first (hf : g.Fills (t :: after) c) : t.cell.row = 0 ∧ t.cell.col = 0 := by
  obtain ⟨c', hf', -, htrial⟩ := hf.split (List.nil_append _).symm
  rw [hf'.eq_start] at htrial
  -- Every item fits into an empty row.
  have hw : ¬ g.Wraps ⟨0, 0⟩ t.slot := fun hw => absurd (col_pos_of_wraps hw) (Nat.lt_irrefl 0)
  rw [htrial, trial_row, trial_col, spot_of_not_wraps hw]
  exact ⟨rfl, rfl⟩

theorem last (hf : g.Fills (before ++ [t]) c) :
    c.row = t.cell.row ∧ c.col.toNat = t.free := by
  generalize hts : before ++ [t] = ts at hf
  cases hf with
  | start => exact absurd hts (List.append_ne_nil_of_right_ne_nil _ (List.cons_ne_nil _ _))
  | put hf hlt s a =>
    rw [List.head_eq_of_cons_eq (List.append_inj' hts rfl).2]
    exact ⟨behind_row g _ s a, behind_col g _ s a⟩

end Fills

/-- How a trial lies to the one before it: behind it, or at the start of the next row if it does not
fit there. -/
def Follows (g : Grid α) (t u : Trial α) : Prop :=
  (g.columns.toNat < t.free + (g.spanOf u.slot.item).toNat →
    u.cell.row.toNat = t.cell.row.toNat + 1 ∧ u.cell.col = 0) ∧
  (t.free + (g.spanOf u.slot.item).toNat ≤ g.columns.toNat →
    u.cell.row = t.cell.row ∧ u.cell.col.toNat = t.free)

namespace Fills

variable {before after : List (Trial α)} {t u : Trial α}

theorem follows (hf : g.Fills ts c) (hts : ts = before ++ t :: u :: after) : g.Follows t u := by
  have hsplit : ts = (before ++ [t]) ++ u :: after := by
    rw [hts, List.append_assoc, List.singleton_append]
  obtain ⟨c', hf', hlt, htrial⟩ := hf.split hsplit
  obtain ⟨hrow, hcol⟩ := hf'.last
  have hwraps : g.Wraps c' u.slot ↔
      g.columns.toNat < t.free + (g.spanOf u.slot.item).toNat := by
    rw [Wraps, hcol]
  have hurow : u.cell.row = (g.spot c' u.slot).row := by rw [htrial, trial_row, trial]
  have hucol : u.cell.col = (g.spot c' u.slot).col := by rw [htrial, trial_col, trial]
  refine ⟨fun hover => ?_, fun hfits => ?_⟩
  · rw [hurow, hucol, ← hrow, spot_of_wraps (hwraps.mpr hover)]
    exact ⟨toNat_below_row (hf'.row_lt hlt), rfl⟩
  · rw [hurow, hucol, ← hrow, spot_of_not_wraps (mt hwraps.mp (Nat.not_lt.mpr hfits))]
    exact ⟨rfl, hcol⟩

end Fills

end Grid

/-- A cell of one row is apart from a cell of a lower row, and from a cell behind it in its row. -/
theorem Cell.apart {c d : Cell} (hrows : c.rowSpan = 1) (hcols : 0 < c.colSpan.toNat)
    (hcd : c.row.toNat < d.row.toNat ∨
      c.row = d.row ∧ c.col.toNat + c.colSpan.toNat ≤ d.col.toNat) :
    c.Precedes d ∧ c.Disjoint d := by
  have hone : c.rowSpan.toNat = 1 := by rw [hrows]; rfl
  refine ⟨?_, ?_⟩
  · rcases hcd with hrow | ⟨hrow, hcol⟩
    · exact .inl (UInt32.lt_iff_toNat_lt.mpr hrow)
    · exact .inr ⟨hrow, UInt16.lt_iff_toNat_lt.mpr (by omega)⟩
  · rintro row col ⟨⟨hrow, hrow', hcol, hcol'⟩, ⟨hdrow, hdrow', hdcol, hdcol'⟩⟩
    rcases hcd with hlt | ⟨-, hle⟩ <;> omega

namespace Grid

variable {g : Grid α} {c : Cursor} {ts : List (Trial α)}

/-- Accepted cells lie apart from each other, in the order of their trials. -/
theorem Fills.apart (hf : g.Fills ts c) :
    ((ts.filter Trial.accepted).map Trial.cell).Pairwise fun d e => d.Precedes e ∧ d.Disjoint e := by
  induction hf with
  | start => exact List.Pairwise.nil
  | @put ts c hf hlt s a ih =>
    rw [List.filter_append, List.map_append, List.pairwise_append]
    refine ⟨ih, ?_, ?_⟩
    · exact (List.pairwise_singleton _ _).sublist (List.filter_sublist.map Trial.cell)
    · intro d hd e he
      obtain ⟨t, ht, rfl⟩ := List.mem_map.mp hd
      obtain ⟨u, hu, rfl⟩ := List.mem_map.mp he
      obtain ⟨ht, hok⟩ := List.mem_filter.mp ht
      rw [List.mem_singleton.mp (List.mem_filter.mp hu).1]
      have hspot : Surveyed ts (g.spot c s) := hf.surveyed.1.spot (hf.row_lt hlt) s
      apply Cell.apart (hf.rowSpan_eq ht) (hf.colSpan_pos ht)
      rw [trial_row, trial_col]
      by_cases hrow : t.cell.row = (g.spot c s).row
      · exact .inr ⟨hrow, hspot.passed t ht hok hrow⟩
      · have hne : t.cell.row.toNat ≠ (g.spot c s).row.toNat := mt UInt32.toNat_inj.mp hrow
        exact .inl (Nat.lt_of_le_of_ne (hspot.row_le t ht) hne)

theorem Fills.trials {xs : List (Slot (Item α) × Except HostError Unit)} (hf : g.Fills ts c)
    (hlt : ts.length + xs.length < 2 ^ 32) : ∃ c', g.Fills (ts ++ g.trials c xs) c' := by
  induction xs generalizing ts c with
  | nil =>
    rw [Grid.trials, List.append_nil]
    exact ⟨c, hf⟩
  | cons x xs ih =>
    rw [List.length_cons] at hlt
    have hput := hf.put (by omega) x.1 x.2
    obtain ⟨c', hf'⟩ := ih hput (by rw [List.length_append, List.length_singleton]; omega)
    rw [List.append_assoc] at hf'
    exact ⟨c', hf'⟩

theorem trials_slot (g : Grid α) (c : Cursor) (xs : List (Slot (Item α) × Except HostError Unit)) :
    (g.trials c xs).map Trial.slot = xs.map Prod.fst := by
  induction xs generalizing c with
  | nil => rfl
  | cons x xs ih => exact congrArg (x.1 :: ·) (ih _)

/-- Whatever the host answers, it is asked about each item once, and each time about the cell of the
trial. -/
theorem packFrom_trials (h : Host α σ) (g : Grid α) (c : Cursor) (ss : List (Slot (Item α)))
    (s : σ) (log : List (Exchange α)) :
    ∃ (xs : List (Slot (Item α) × Except HostError Unit)) (s' : σ), xs.map Prod.fst = ss ∧
      packFrom h.transcribed g c ss (s, log) =
        (refused xs, s', log ++ (g.trials c xs).map Trial.exchange) := by
  induction ss generalizing c s log with
  | nil =>
    refine ⟨[], s, rfl, ?_⟩
    rw [trials, List.map_nil, List.append_nil]
    rfl
  | cons x ss ih =>
    let p : Placement α := .cell ((g.spot c x).cell (g.spanOf x.item))
    obtain ⟨answer, s₁, hput⟩ : ∃ answer s₁, h.place x.item.widget p s = (answer, s₁) :=
      ⟨_, _, rfl⟩
    have hlog : h.transcribed.place x.item.widget p (s, log) =
        (answer, s₁, log ++ [⟨.place x.item.widget p, .carriedOut answer⟩]) := by
      change writing _ _ (h.place x.item.widget p) (s, log) = _
      rw [writing, hput]
    have hexchange : (g.trial c x answer).exchange =
        ⟨.place x.item.widget p, .carriedOut answer⟩ := by rw [trial, Trial.exchange]
    obtain ⟨xs, s', hxs, hrest⟩ :=
      ih (g.behind c x answer) s₁ (log ++ [(g.trial c x answer).exchange])
    refine ⟨(x, answer) :: xs, s', by rw [List.map_cons, hxs], ?_⟩
    rw [trials, List.map_cons, List.append_cons]
    cases answer with
    | ok u =>
      rw [behind_ok] at hrest ⊢
      rw [packFrom_accepted hlog, ← hexchange, hrest]
      rfl
    | error e =>
      rw [behind_error] at hrest ⊢
      rw [packFrom_refused hlog, ← hexchange, hrest]
      rfl

theorem packFrom_transcribed (h : Host α σ) (g : Grid α) (c : Cursor) (ss : List (Slot (Item α)))
    (s : σ) (log : List (Exchange α)) :
    ∃ xs : List (Slot (Item α) × Except HostError Unit), xs.map Prod.fst = ss ∧
      (packFrom h.transcribed g c ss (s, log)).2.2 =
        log ++ (g.trials c xs).map Trial.exchange := by
  obtain ⟨xs, s', hxs, hrun⟩ := packFrom_trials h g c ss s log
  exact ⟨xs, hxs, congrArg (fun x => x.2.2) hrun⟩

/-- Trials that fill a grid row by row: every item once, in order, in a cell of its span behind the
accepted items of its row, and in the next row exactly if it does not fit there. -/
structure NextFit (g : Grid α) (ts : List (Trial α)) : Prop where
  ordered : g.items.Ordered Item.order (ts.map Trial.slot)
  rowSpan_eq : ∀ t ∈ ts, t.cell.rowSpan = 1
  colSpan_eq : ∀ t ∈ ts, t.cell.colSpan = g.spanOf t.slot.item
  colSpan_pos : ∀ t ∈ ts, 1 ≤ t.cell.colSpan
  fits : ∀ t ∈ ts, t.cell.col.toNat + t.cell.colSpan.toNat ≤ g.columns.toNat
  col_eq : ∀ before t after, ts = before ++ t :: after →
    t.cell.col.toNat = Trial.taken before t.cell.row
  first : ∀ t after, ts = t :: after → t.cell.row = 0 ∧ t.cell.col = 0
  follows : ∀ before t u after, ts = before ++ t :: u :: after → g.Follows t u
  no_wraparound : ∀ t ∈ ts, t.cell.row.toNat + 1 < 2 ^ 32
  apart : ((ts.filter Trial.accepted).map Trial.cell).Pairwise fun d e =>
    d.Precedes e ∧ d.Disjoint e
  filled : ∀ t ∈ ts, ∀ row < t.cell.row.toNat,
    ∃ u ∈ ts, u.accepted = true ∧ u.cell.row.toNat = row

theorem Fills.nextFit (hf : g.Fills ts c) (hts : g.items.Ordered Item.order (ts.map Trial.slot)) :
    g.NextFit ts where
  ordered := hts
  rowSpan_eq _ ht := hf.rowSpan_eq ht
  colSpan_eq _ ht := hf.colSpan_eq ht
  colSpan_pos _ ht := UInt16.le_iff_toNat_le.mpr (hf.colSpan_pos ht)
  fits _ ht := hf.fits ht
  col_eq _ _ _ hsplit := hf.col_eq hsplit
  first t after hcons := by
    subst hcons
    exact hf.first
  follows _ _ _ _ hsplit := hf.follows hsplit
  no_wraparound _ ht := hf.row_no_wraparound ht
  apart := hf.apart
  filled _ ht _ hrow := hf.row_filled ht hrow

/-- A pass over fewer than 2^32 items hands over the tracks and then fills the grid row by row,
whatever the host answers. -/
theorem relayout_nextFit [Scalar α] (h : Host α σ) {g : Grid α} (hready : g.isReady = true)
    (hsize : g.items.size < 2 ^ 32) (s : σ) (log : List (Exchange α)) :
    ∃ ts : List (Trial α), g.NextFit ts ∧
      (g.relayout h.transcribed (s, log)).2.2 =
        log ++ ⟨.configureGrid g.tracks, .carriedOut (.ok ())⟩ :: ts.map Trial.exchange := by
  obtain ⟨s', hs'⟩ : ∃ s', h.transcribed.configureGrid g.tracks (s, log) =
      ((), s', log ++ [⟨.configureGrid g.tracks, .carriedOut (.ok ())⟩]) := ⟨_, rfl⟩
  obtain ⟨xs, hxs, hlog⟩ := packFrom_transcribed h g ⟨0, 0⟩ (g.items.inOrder Item.order) s'
    (log ++ [⟨.configureGrid g.tracks, .carriedOut (.ok ())⟩])
  have hlength : xs.length = g.items.size := by
    rw [← List.length_map Prod.fst, hxs, Registry.length_inOrder]
  have hstart : g.Fills [] ⟨0, 0⟩ := .start
  obtain ⟨c, hfills⟩ : ∃ c, g.Fills ([] ++ g.trials ⟨0, 0⟩ xs) c := by
    apply hstart.trials
    rw [hlength, List.length_nil, Nat.zero_add]
    exact hsize
  rw [List.nil_append] at hfills
  refine ⟨g.trials ⟨0, 0⟩ xs, hfills.nextFit ?_, ?_⟩
  · rw [trials_slot, hxs]
    exact g.items.ordered_inOrder Item.order
  · rw [relayout_eq, if_pos hready]
    change (packFrom h.transcribed g ⟨0, 0⟩ _ (h.transcribed.configureGrid g.tracks (s, log)).2).2.2 = _
    rw [hs', hlog, List.append_assoc, List.singleton_append]

/-- The second of three items is refused, and the third stays in the row begun for it. -/
theorem relayout_nextFit_threefold :
    let r := (Recorder.empty : Recorder Float32).destroy ⟨2⟩
    threefold.isReady = true ∧ threefold.items.size < 2 ^ 32 ∧
      ∃ ts : List (Trial Float32), threefold.NextFit ts ∧
        (threefold.relayout Recorder.host.transcribed (r, [])).2.2 =
          [] ++ ⟨.configureGrid threefold.tracks, .carriedOut (.ok ())⟩ :: ts.map Trial.exchange :=
  ⟨by decide +kernel, by decide, relayout_nextFit Recorder.host (by decide +kernel) (by decide) _ []⟩

end Grid

end ResponsiveLayout
