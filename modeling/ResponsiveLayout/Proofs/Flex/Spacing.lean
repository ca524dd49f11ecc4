import Mathlib.Tactic.FieldSimp
import ResponsiveLayout.Proofs.Flex.Edges

/-! The six ways to justify a row. Each sets the items one common distance apart and leaves room before
the first and behind the last of them, and together the room at both ends and the extra room between the
items are what the items do not take. -/
namespace ResponsiveLayout

namespace Justify

/-- What a mode makes of `n` items that take all of a width but for `free`: the extra room between two of
them, where the first one starts, and where the last one stops. -/
structure Spreads (j : Justify) (n : Nat) (free width spacing first stop : Rat) : Prop where
  spacing_nonneg : 0 ≤ spacing
  unspaced : j = .start ∨ j = .center ∨ j = .end → spacing = 0
  from_start : j = .start → first = 0
  to_end : j = .end → stop = width
  centered : j = .center → first = width - stop
  between : j = .spaceBetween → 0 ≤ free → 2 ≤ n → first = 0 ∧ stop = width
  around : j = .spaceAround → 0 ≤ free → first = spacing / 2 ∧ width - stop = spacing / 2
  evenly : j = .spaceEvenly → 0 ≤ free → first = spacing ∧ width - stop = spacing

/-- The room behind the last item, when the first one and the spaces have had theirs. -/
def trail (j : Justify) (free : Rat) (n : Nat) : Rat :=
  free - (j.leadAndSpacing free n).1 - (j.leadAndSpacing free n).2 * (n - 1 : Nat)

theorem spacing_nonneg (j : Justify) (free : Rat) (n : Nat) : 0 ≤ (j.leadAndSpacing free n).2 := by
  have hspread : 0 ≤ Scalar.positive free := by
    rw [Scalar.positive_eq_max]
    exact le_max_left 0 free
  have hpart (k : Nat) : 0 ≤ Scalar.positive free / (k : Rat) := div_nonneg hspread k.cast_nonneg
  cases j with
  | start | center | «end» => exact le_rfl
  | spaceBetween =>
    simp only [leadAndSpacing]
    split
    · exact hpart (n - 1)
    · exact le_rfl
  | spaceAround => exact hpart n
  | spaceEvenly => exact hpart (n + 1)

section

variable {free : Rat} {n : Nat}

theorem trail_center (free : Rat) (n : Nat) :
    Justify.center.trail free n = (Justify.center.leadAndSpacing free n).1 := by
  simp only [trail, leadAndSpacing]
  ring

theorem trail_end (free : Rat) (n : Nat) : Justify.end.trail free n = 0 := by
  simp only [trail, leadAndSpacing]
  ring

variable (hfree : 0 ≤ free)

include hfree

theorem positive_of_nonneg : Scalar.positive free = free := by
  rw [Scalar.positive_eq_max]
  exact max_eq_right hfree

/-- Between `n` items there are `n - 1` spaces. -/
theorem trail_spaceBetween (hn : 2 ≤ n) : Justify.spaceBetween.trail free n = 0 := by
  have hspaces : ((n - 1 : Nat) : Rat) ≠ 0 := by
    rw [Nat.cast_ne_zero]
    omega
  have hmany : 1 < n := by omega
  simp only [trail, leadAndSpacing, if_pos hmany, positive_of_nonneg hfree]
  rw [div_mul_cancel₀ _ hspaces]
  ring

/-- Around `n` items there are `n` spaces, half a space at each end. -/
theorem trail_spaceAround (hn : 0 < n) :
    Justify.spaceAround.trail free n = (Justify.spaceAround.leadAndSpacing free n).2 / 2 := by
  have hitems : (n : Rat) ≠ 0 := by
    rw [Nat.cast_ne_zero]
    omega
  simp only [trail, leadAndSpacing, positive_of_nonneg hfree, Nat.cast_pred hn]
  field_simp
  ring

/-- With one at each end there are `n + 1` even spaces. -/
theorem trail_spaceEvenly (hn : 0 < n) :
    Justify.spaceEvenly.trail free n = (Justify.spaceEvenly.leadAndSpacing free n).2 := by
  have hspaces : (n : Rat) + 1 ≠ 0 := by positivity
  simp only [trail, leadAndSpacing, positive_of_nonneg hfree, Nat.cast_pred hn, Nat.cast_add,
    Nat.cast_one]
  field_simp
  ring

end

/-- The width of a row consists of its lead, its items, their distances and its trail. -/
theorem spreads_of_trail (j : Justify) {n : Nat} (hn : 0 < n) {free width stop : Rat}
    (hstop : width - stop = j.trail free n) :
    j.Spreads n free width (j.leadAndSpacing free n).2 (j.leadAndSpacing free n).1 stop where
  spacing_nonneg := j.spacing_nonneg free n
  unspaced := by
    rintro (rfl | rfl | rfl) <;> rfl
  from_start := by
    rintro rfl
    rfl
  to_end := by
    rintro rfl
    rw [trail_end] at hstop
    linarith
  centered := by
    rintro rfl
    rw [hstop, trail_center]
  between := by
    rintro rfl hfree hmany
    rw [trail_spaceBetween hfree hmany] at hstop
    have hlead : (Justify.spaceBetween.leadAndSpacing free n).1 = 0 := by
      simp only [leadAndSpacing]
      split <;> rfl
    exact ⟨hlead, by linarith⟩
  around := by
    rintro rfl hfree
    rw [hstop, trail_spaceAround hfree hn]
    exact ⟨by simp [leadAndSpacing], rfl⟩
  evenly := by
    rintro rfl hfree
    rw [hstop, trail_spaceEvenly hfree hn]
    exact ⟨rfl, rfl⟩

end Justify

/-- A row that does not fit is not spread: it is set as it is from the start. -/
theorem arrange_crowded {j : Justify} (hspaces : j = .spaceBetween ∨ j = .spaceAround ∨ j = .spaceEvenly)
    {sizes : List Rat} {available : Rat} (hcrowded : available - Scalar.total sizes < 0) (gap : Rat) :
    arrange j sizes available gap = arrange .start sizes available gap := by
  have hspread : Scalar.positive (available - Scalar.total sizes) = 0 := by
    rw [Scalar.positive_eq_max]
    exact max_eq_left hcrowded.le
  have hnothing : j.leadAndSpacing (available - Scalar.total sizes) sizes.length = (0, 0) := by
    rcases hspaces with rfl | rfl | rfl <;> simp [Justify.leadAndSpacing, hspread]
  rw [arrange, hnothing]
  rfl

/-- A row as a mode sets it. Every item has one start. With the gap and one common space between them the
items follow each other in order, so that none reaches over the next. Where the row starts and where it
stops is a matter of the mode; the room that it has is what is available and all the gaps. -/
structure Arranged (j : Justify) (sizes : List Rat) (available gap : Rat) (starts : List Rat) : Prop where
  length_eq : starts.length = sizes.length
  spread : ∃ spacing first last, (starts.zip sizes).head? = some first ∧
    (starts.zip sizes).getLast? = some last ∧
    (starts.zip sizes).IsChain (fun p q => q.1 = p.1 + p.2 + (gap + spacing)) ∧
    (starts.zip sizes).Pairwise (fun p q => p.1 + p.2 ≤ q.1) ∧
    j.Spreads sizes.length (available - Scalar.total sizes)
      (available + gap * (sizes.length - 1 : Nat)) spacing first.1 (last.1 + last.2)
  crowded : j = .spaceBetween ∨ j = .spaceAround ∨ j = .spaceEvenly →
    available - Scalar.total sizes < 0 → starts = arrange .start sizes available gap

theorem arrange_arranged (j : Justify) {sizes : List Rat} (hsome : sizes ≠ [])
    (hsizes : ∀ size ∈ sizes, 0 ≤ size) (available : Rat) {gap : Rat} (hgap : 0 ≤ gap) :
    Arranged j sizes available gap (arrange j sizes available gap) := by
  let starts := arrange j sizes available gap
  let free := available - Scalar.total sizes
  let width := available + gap * (sizes.length - 1 : Nat)
  let lead := (j.leadAndSpacing free sizes.length).1
  let spacing := (j.leadAndSpacing free sizes.length).2
  have hcount : 0 < sizes.length := List.length_pos_iff.mpr hsome
  have hdistance : 0 ≤ gap + spacing := add_nonneg hgap (j.spacing_nonneg free sizes.length)
  have hspaced : Spaced (gap + spacing) lead (starts.zip sizes)
      (lead + Scalar.total sizes + (gap + spacing) * (sizes.length - 1 : Nat)) :=
    spaced_offsetsFrom hsome gap spacing lead
  have hlengths : ∀ p ∈ starts.zip sizes, 0 ≤ p.2 :=
    fun p hp => hsizes p.2 (List.of_mem_zip hp).2
  obtain ⟨first, hfirst, hlead⟩ := hspaced.head?
  obtain ⟨last, hlast, hstop⟩ := hspaced.getLast?
  have htrail : width - (last.1 + last.2) = j.trail free sizes.length := by
    calc
      width - (last.1 + last.2) =
          width - (lead + Scalar.total sizes + (gap + spacing) * (sizes.length - 1 : Nat)) := by
        rw [hstop]
      _ = free - lead - spacing * (sizes.length - 1 : Nat) := by
        simp only [width, free]
        ring
  constructor
  · exact length_arrange j sizes available gap
  · refine ⟨spacing, first, last, hfirst, hlast, hspaced.isChain,
      hspaced.pairwise hdistance hlengths, ?_⟩
    rw [hlead]
    exact j.spreads_of_trail hcount htrail
  · intro hspaces hcrowded
    exact arrange_crowded hspaces hcrowded gap

/-- Three items of a total of six in a room of fourteen: the eight that are left make four even spaces. -/
theorem arrange_arranged_three :
    let sizes : List Rat := [1, 2, 3]
    (sizes ≠ [] ∧ (∀ size ∈ sizes, 0 ≤ size) ∧ (0 : Rat) ≤ 1) ∧
      Arranged .spaceEvenly sizes 14 1 [2, 6, 11] := by
  intro sizes
  have hsome : sizes ≠ [] := by decide
  have hsizes : ∀ size ∈ sizes, 0 ≤ size := by decide
  have hgap : (0 : Rat) ≤ 1 := by decide
  have hstarts : arrange .spaceEvenly sizes 14 1 = [2, 6, 11] := by decide +kernel
  refine ⟨⟨hsome, hsizes, hgap⟩, ?_⟩
  rw [← hstarts]
  exact arrange_arranged .spaceEvenly hsome hsizes 14 hgap

end ResponsiveLayout
