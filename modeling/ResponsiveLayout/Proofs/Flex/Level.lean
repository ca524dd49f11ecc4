import Mathlib.Tactic.Linarith
import Mathlib.Tactic.Positivity
import Mathlib.Tactic.Ring
import ResponsiveLayout.Flex.Distribution
import ResponsiveLayout.Proofs.Scalar

/-! Shrinking by a common level. At level `l` every item gives up the part `l * shrink` of its basis, and
all of it when that part is the whole. As the level rises, the lengths fall without a jump to those of
the items that cannot give way, so every length of the row in between belongs to some level. -/
namespace ResponsiveLayout

namespace Demand

/-- What an item keeps of its basis at a level. -/
def kept (level : Rat) (d : Demand Rat) : Rat := max 0 (d.basis * (1 - level * d.shrink))

/-- Whether an item still has something to give at a level. -/
def lasts (level : Rat) (d : Demand Rat) : Bool := decide (level * d.shrink < 1)

variable {level : Rat} {d : Demand Rat}

theorem kept_nonneg (level : Rat) (d : Demand Rat) : 0 ≤ d.kept level := le_max_left _ _

/-- An item gives up no more than its part. -/
theorem sub_le_kept (level : Rat) (d : Demand Rat) :
    d.basis - level * (d.shrink * d.basis) ≤ d.kept level := by
  have hle : d.basis * (1 - level * d.shrink) ≤ d.kept level := le_max_right _ _
  linarith

theorem kept_of_lasts (hbasis : 0 ≤ d.basis) (hlasts : d.lasts level = true) :
    d.kept level = d.basis - level * (d.shrink * d.basis) := by
  have hlt : level * d.shrink < 1 := of_decide_eq_true hlasts
  have hnonneg : 0 ≤ d.basis * (1 - level * d.shrink) := mul_nonneg hbasis (by linarith)
  rw [kept, max_eq_right hnonneg]
  ring

theorem kept_of_spent (hbasis : 0 ≤ d.basis) (hspent : 1 ≤ level * d.shrink) : d.kept level = 0 :=
  max_eq_left (mul_nonpos_of_nonneg_of_nonpos hbasis (by linarith))

theorem kept_le_basis (hlevel : 0 ≤ level) (hbasis : 0 ≤ d.basis) (hshrink : 0 ≤ d.shrink) :
    d.kept level ≤ d.basis := by
  have hpart : 0 ≤ level * (d.shrink * d.basis) := by positivity
  refine max_le hbasis ?_
  linarith

/-- An item without basis or without shrink weight keeps its basis at every level. -/
theorem kept_of_rigid (hbasis : 0 ≤ d.basis) (hrigid : d.shrink * d.basis = 0) :
    d.kept level = d.basis := by
  have hsame : d.basis * (1 - level * d.shrink) = d.basis := by
    calc d.basis * (1 - level * d.shrink)
      _ = d.basis - level * (d.shrink * d.basis) := by ring
      _ = d.basis := by rw [hrigid, mul_zero, sub_zero]
  rw [kept, hsame, max_eq_right hbasis]

end Demand

def keptTotal (level : Rat) (ds : List (Demand Rat)) : Rat :=
  Scalar.total (ds.map (Demand.kept level))

/-- The bases of the items that cannot give way. -/
def rigidTotal (ds : List (Demand Rat)) : Rat :=
  Scalar.total ((ds.filter fun d => d.shrink * d.basis = 0).map Demand.basis)

section

variable {ds : List (Demand Rat)}

theorem keptTotal_eq_sum (level : Rat) (ds : List (Demand Rat)) :
    keptTotal level ds = (ds.map (Demand.kept level)).sum := Scalar.total_eq_sum _

theorem rigidTotal_eq_sum (ds : List (Demand Rat)) :
    rigidTotal ds = (ds.map fun d => if d.shrink * d.basis = 0 then d.basis else 0).sum := by
  rw [rigidTotal, Scalar.total_eq_sum]
  induction ds with
  | nil => rfl
  | cons d ds ih =>
    by_cases hrigid : d.shrink * d.basis = 0
    · simp only [hrigid, decide_true, List.filter_cons_of_pos, List.map_cons, List.sum_cons, ih, if_true]
    · simp only [hrigid, decide_false, List.filter_cons, List.map_cons, List.sum_cons, ih, if_false,
        Bool.false_eq_true, zero_add]

/-- The line that a total follows while no more items are spent: the bases of the items that last at a
level, less what they give up. -/
def line (start level : Rat) (ds : List (Demand Rat)) : Rat :=
  ((ds.filter (Demand.lasts start)).map Demand.basis).sum -
    level * ((ds.filter (Demand.lasts start)).map fun d => d.shrink * d.basis).sum

theorem line_cons (start level : Rat) (d : Demand Rat) (ds : List (Demand Rat)) :
    line start level (d :: ds) =
      (if d.lasts start then d.basis - level * (d.shrink * d.basis) else 0) + line start level ds := by
  rw [line, line, List.filter_cons]
  split
  · simp only [List.map_cons, List.sum_cons]
    ring
  · ring

/-- A total never falls below the line that it starts out on. -/
theorem line_le_keptTotal (start level : Rat) (ds : List (Demand Rat)) :
    line start level ds ≤ keptTotal level ds := by
  rw [keptTotal_eq_sum]
  induction ds with
  | nil => simp [line]
  | cons d ds ih =>
    rw [line_cons, List.map_cons, List.sum_cons]
    have hfirst : (if d.lasts start then d.basis - level * (d.shrink * d.basis) else 0) ≤
        d.kept level := by
      split
      · exact d.sub_le_kept level
      · exact d.kept_nonneg level
    exact add_le_add hfirst ih

theorem keptTotal_eq_line (hds : ∀ d ∈ ds, 0 ≤ d.basis) (level : Rat) :
    keptTotal level ds = line level level ds := by
  rw [keptTotal_eq_sum]
  induction ds with
  | nil => simp [line]
  | cons d ds ih =>
    obtain ⟨hbasis, hrest⟩ := List.forall_mem_cons.mp hds
    rw [line_cons, List.map_cons, List.sum_cons, ih hrest]
    congr 1
    split
    · next hlasts => exact Demand.kept_of_lasts hbasis hlasts
    · next hspent =>
      refine Demand.kept_of_spent hbasis ?_
      simpa [Demand.lasts] using hspent

/-- At a level where no item that lasts gives anything up, only the items that cannot give way are left. -/
theorem keptTotal_le_rigidTotal {level : Rat} (hds : ∀ d ∈ ds, 0 ≤ d.basis ∧ 0 ≤ d.shrink)
    (hlevel : 0 ≤ level) (hnone : ∀ d ∈ ds, d.lasts level = true → d.shrink * d.basis = 0) :
    keptTotal level ds ≤ rigidTotal ds := by
  rw [keptTotal_eq_sum, rigidTotal_eq_sum]
  refine List.sum_le_sum fun d hd => ?_
  obtain ⟨hbasis, hshrink⟩ := hds d hd
  split
  · exact Demand.kept_le_basis hlevel hbasis hshrink
  · next hgiving =>
    have hspent : ¬ d.lasts level = true := fun hlasts => hgiving (hnone d hd hlasts)
    exact (Demand.kept_of_spent hbasis (by simpa [Demand.lasts] using hspent)).le

theorem rigidTotal_le_keptTotal (hds : ∀ d ∈ ds, 0 ≤ d.basis ∧ 0 ≤ d.shrink) (level : Rat) :
    rigidTotal ds ≤ keptTotal level ds := by
  rw [keptTotal_eq_sum, rigidTotal_eq_sum]
  refine List.sum_le_sum fun d hd => ?_
  split
  · next hrigid => exact (Demand.kept_of_rigid (hds d hd).1 hrigid).ge
  · exact d.kept_nonneg level

/-- Where the items keep no more than those that cannot give way, all others are spent. -/
theorem spent_of_keptTotal_le (hds : ∀ d ∈ ds, 0 ≤ d.basis ∧ 0 ≤ d.shrink) {level : Rat}
    (htotal : keptTotal level ds ≤ rigidTotal ds) {d : Demand Rat} (hd : d ∈ ds)
    (hgives : 0 < d.shrink * d.basis) : 1 ≤ level * d.shrink := by
  rw [keptTotal_eq_sum, rigidTotal_eq_sum] at htotal
  refine not_lt.mp fun hlasts => htotal.not_gt ?_
  -- An item that lasts keeps more than nothing, so the total would be larger.
  refine List.sum_lt_sum _ _ (fun e he => ?_) ⟨d, hd, ?_⟩
  · split
    · next hrigid => exact (Demand.kept_of_rigid (hds e he).1 hrigid).ge
    · exact e.kept_nonneg level
  · obtain ⟨hbasis, hshrink⟩ := hds d hd
    have hpos : 0 < d.basis := pos_of_mul_pos_right hgives hshrink
    have hleft : 0 < d.basis * (1 - level * d.shrink) := mul_pos hpos (by linarith)
    rw [if_neg hgives.ne']
    exact hleft.trans_le (le_max_right _ _)

theorem keptTotal_zero (hds : ∀ d ∈ ds, 0 ≤ d.basis) :
    keptTotal 0 ds = Scalar.total (ds.map Demand.basis) := by
  rw [keptTotal]
  congr 1
  refine List.map_congr_left fun d hd => ?_
  rw [Demand.kept, zero_mul, sub_zero, mul_one, max_eq_right (hds d hd)]

/-- The items that last at a level are among those that last at a lower one. -/
theorem filter_lasts_sublist (hds : ∀ d ∈ ds, 0 ≤ d.basis ∧ 0 ≤ d.shrink) {start level : Rat}
    (hle : start ≤ level) :
    (ds.filter (Demand.lasts level)).Sublist (ds.filter (Demand.lasts start)) := by
  have htwice : ds.filter (Demand.lasts level) =
      (ds.filter (Demand.lasts start)).filter (Demand.lasts level) := by
    rw [List.filter_filter]
    refine List.filter_congr fun d hd => ?_
    have hpart : start * d.shrink ≤ level * d.shrink := mul_le_mul_of_nonneg_right hle (hds d hd).2
    rw [Demand.lasts, Demand.lasts, ← Bool.decide_and, decide_eq_decide]
    exact (and_iff_left_of_imp hpart.trans_lt).symm
  rw [htwice]
  exact List.filter_sublist

/-- Every total between that of a level and that of the items that cannot give way belongs to a level
that is no lower. -/
theorem exists_level_above (hds : ∀ d ∈ ds, 0 ≤ d.basis ∧ 0 ≤ d.shrink) {start goal : Rat}
    (hstart : 0 ≤ start) (hlow : rigidTotal ds ≤ goal) (hhigh : goal ≤ keptTotal start ds) :
    ∃ level, start ≤ level ∧ keptTotal level ds = goal := by
  generalize hn : (ds.filter (Demand.lasts start)).length = n
  induction n using Nat.strong_induction_on generalizing start with
  | _ n ih =>
    let bases := ((ds.filter (Demand.lasts start)).map Demand.basis).sum
    let weights := (ds.filter (Demand.lasts start)).map fun d => d.shrink * d.basis
    have hbases : ∀ d ∈ ds, 0 ≤ d.basis := fun d hd => (hds d hd).1
    have hweights : ∀ w ∈ weights, 0 ≤ w := by
      intro w hw
      obtain ⟨d, hd, rfl⟩ := List.mem_map.mp hw
      obtain ⟨hbasis, hshrink⟩ := hds d (List.mem_filter.mp hd).1
      exact mul_nonneg hshrink hbasis
    rcases (List.sum_nonneg hweights).eq_or_lt with hzero | hpos
    · -- Nothing that lasts gives way, so the goal has been reached.
      have hnone : ∀ d ∈ ds, d.lasts start = true → d.shrink * d.basis = 0 := by
        intro d hd hlasts
        have hmem : d.shrink * d.basis ∈ weights :=
          List.mem_map_of_mem (List.mem_filter.mpr ⟨hd, hlasts⟩)
        have hle := List.single_le_sum hweights _ hmem
        linarith [hweights _ hmem]
      have hreached := keptTotal_le_rigidTotal hds hstart hnone
      exact ⟨start, le_rfl, by linarith⟩
    · -- Follow the line down to the goal. If no item is spent on the way, the goal belongs to the level
      -- there; otherwise the total is still above it, and fewer items last.
      let level := (bases - goal) / weights.sum
      have hline : line start level ds = goal := by
        change bases - (bases - goal) / weights.sum * weights.sum = goal
        rw [div_mul_cancel₀ _ hpos.ne']
        ring
      have hle : start ≤ level := by
        rw [keptTotal_eq_line hbases] at hhigh
        change goal ≤ bases - start * weights.sum at hhigh
        rw [le_div_iff₀ hpos]
        linarith
      have hsublist := filter_lasts_sublist hds hle
      rcases lt_or_ge (ds.filter (Demand.lasts level)).length n with hfewer | hsame
      · have habove : goal ≤ keptTotal level ds := hline ▸ line_le_keptTotal start level ds
        obtain ⟨level', hlevel', hgoal⟩ := ih _ hfewer (hstart.trans hle) habove rfl
        exact ⟨level', hle.trans hlevel', hgoal⟩
      · have hlast := hsublist.eq_of_length_le (hn ▸ hsame)
        refine ⟨level, hle, ?_⟩
        rw [keptTotal_eq_line hbases, line, hlast]
        exact hline

end

end ResponsiveLayout
