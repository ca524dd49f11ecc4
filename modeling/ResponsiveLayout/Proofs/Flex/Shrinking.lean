import Mathlib.Data.List.Forall2
import ResponsiveLayout.Proofs.Flex.Level
import ResponsiveLayout.Proofs.Flex.Rounds

/-! Shrinking in rounds comes to the lengths of a level. The level that the rounds go by only ever rises,
so whoever is fixed at zero in a round is spent at the level of the whole row as well. -/
namespace ResponsiveLayout

namespace Sizing

/-- How an item stands while a row is shrunk: it cannot give way, or it has given up everything and is
spent at the level of the row, or it has not been touched. -/
inductive Stands (level : Rat) (d : Demand Rat) : Sizing Rat → Prop
  | rigid (hrigid : d.shrink * d.basis = 0) : Stands level d ⟨d.basis, d.shrink * d.basis, true⟩
  | emptied (hgives : 0 < d.shrink * d.basis) (hspent : 1 ≤ level * d.shrink) :
    Stands level d ⟨0, d.shrink * d.basis, true⟩
  | untouched (hgives : 0 < d.shrink * d.basis) :
    Stands level d ⟨d.basis, d.shrink * d.basis, false⟩

/-- A length that an item may end up with: no less than it keeps at the level of the row, no more than
its basis, and its basis if it cannot give way. -/
structure Shrunk (level : Rat) (d : Demand Rat) (size : Rat) : Prop where
  kept_le : d.kept level ≤ size
  le_basis : size ≤ d.basis
  rigid : d.shrink * d.basis = 0 → size = d.basis

def sizeTotal (ps : List (Sizing Rat)) : Rat := Scalar.total (ps.map size)

theorem sizeTotal_cons (p : Sizing Rat) (ps : List (Sizing Rat)) :
    sizeTotal (p :: ps) = p.size + sizeTotal ps := by
  rw [sizeTotal, sizeTotal, Scalar.total_eq_sum, Scalar.total_eq_sum, List.map_cons, List.sum_cons]

theorem openWeight_cons (p : Sizing Rat) (ps : List (Sizing Rat)) :
    openWeight (p :: ps) = (if p.settled then 0 else p.weight) + openWeight ps := by
  rw [openWeight, openWeight, Scalar.total_eq_sum, Scalar.total_eq_sum, List.filter_cons]
  cases p.settled <;> simp

section

variable {level excess weight : Rat} {d : Demand Rat} {p : Sizing Rat} {ds : List (Demand Rat)}
  {ps : List (Sizing Rat)}

theorem stands_ofDemand (hbasis : 0 ≤ d.basis) (hshrink : 0 ≤ d.shrink) :
    Stands level d (ofDemand d) := by
  rcases (mul_nonneg hshrink hbasis).eq_or_lt with hrigid | hgives
  · have hsettled : decide (d.shrink * d.basis ≤ 0) = true := decide_eq_true hrigid.ge
    rw [ofDemand, hsettled]
    exact .rigid hrigid.symm
  · have hopen : decide (d.shrink * d.basis ≤ 0) = false := decide_eq_false hgives.not_ge
    rw [ofDemand, hopen]
    exact .untouched hgives

theorem Stands.shrunk (hp : Stands level d p) (hlevel : 0 ≤ level) (hbasis : 0 ≤ d.basis)
    (hshrink : 0 ≤ d.shrink) : Shrunk level d p.size := by
  cases hp with
  | rigid hrigid => exact ⟨(Demand.kept_of_rigid hbasis hrigid).le, le_rfl, fun _ => rfl⟩
  | emptied hgives hspent =>
    exact ⟨(Demand.kept_of_spent hbasis hspent).le, hbasis, fun hrigid => absurd hrigid hgives.ne'⟩
  | untouched hgives => exact ⟨Demand.kept_le_basis hlevel hbasis hshrink, le_rfl, fun _ => rfl⟩

/-- An item that a round asks for everything has at most its part of the excess. -/
theorem le_share (hweight : 0 < weight) (hgone : p.size - share excess weight p ≤ 0) :
    p.size * weight ≤ excess * p.weight := by
  have hle : p.size ≤ excess * p.weight / weight := by
    rw [share] at hgone
    linarith
  rwa [le_div_iff₀ hweight] at hle

/-- What a round takes off the excess is what it takes from the items. -/
theorem settle_left (left : Rat) :
    (settle excess weight left ps).2 - sizeTotal (settle excess weight left ps).1 =
      left - sizeTotal ps := by
  induction ps generalizing left with
  | nil => rfl
  | cons p ps ih =>
    rw [settle_cons]
    split
    · have hrest := ih (left - p.size)
      simp only [sizeTotal_cons]
      linarith
    · have hrest := ih left
      simp only [sizeTotal_cons]
      linarith

/-- If a round fixes nobody, every open item has something left after giving its part. -/
theorem lt_of_openCount_settle {left : Rat}
    (hsame : openCount ps ≤ openCount (settle excess weight left ps).1) :
    ∀ p ∈ ps, p.settled = false → 0 < p.size - share excess weight p :=
  fun p hp hopen => not_le.mp (not_le_of_openCount_settle hsame p hp hopen)

/-- A round never takes more than all open items have to give together. -/
theorem settle_left_ge (hexcess : 0 ≤ excess) (hweight : 0 < weight)
    (hopen : ∀ p ∈ ps, p.settled = false → 0 ≤ p.weight) (left : Rat) :
    left - excess / weight * openWeight ps ≤ (settle excess weight left ps).2 := by
  induction ps generalizing left with
  | nil => simp [settle, openWeight, Scalar.total_eq_sum]
  | cons p ps ih =>
    obtain ⟨hp, hps⟩ := List.forall_mem_cons.mp hopen
    rw [settle_cons]
    split
    · next hgone =>
      have hrest := ih hps (left - p.size)
      have hsize : p.size ≤ excess / weight * p.weight := by
        rw [div_mul_eq_mul_div, le_div_iff₀ hweight]
        exact le_share hweight hgone.2
      rw [openWeight_cons, if_neg (Bool.eq_false_iff.mp hgone.1)]
      linarith
    · have hrest := ih hps left
      rw [openWeight_cons]
      have hpart : 0 ≤ excess / weight * (if p.settled then 0 else p.weight) := by
        refine mul_nonneg (div_nonneg hexcess hweight.le) ?_
        split
        · exact le_rfl
        · next hopen => exact hp (Bool.eq_false_iff.mpr hopen)
      linarith

/-- A round leaves every item standing, if whoever it asks for everything is spent at the level of the
row. -/
theorem settle_stands (hps : List.Forall₂ (Stands level) ds ps) (hweight : 0 < weight)
    (hround : ∀ d ∈ ds, 0 < d.shrink * d.basis →
      d.basis * weight ≤ excess * (d.shrink * d.basis) → 1 ≤ level * d.shrink) (left : Rat) :
    List.Forall₂ (Stands level) ds (settle excess weight left ps).1 := by
  induction hps generalizing left with
  | nil => exact .nil
  | cons hp hps ih =>
    obtain ⟨hspent, hrest⟩ := List.forall_mem_cons.mp hround
    rw [settle_cons]
    split
    · next hgone =>
      refine .cons ?_ (ih hrest _)
      cases hp with
      | rigid | emptied => exact Bool.noConfusion hgone.1
      | untouched hgives => exact .emptied hgives (hspent hgives (le_share hweight hgone.2))
    · exact .cons hp (ih hrest _)

/-- The last round takes the excess from the open items by weight. -/
theorem sizeTotal_relieve :
    sizeTotal (relieve excess weight ps) = sizeTotal ps - excess / weight * openWeight ps := by
  induction ps with
  | nil => simp [relieve, sizeTotal, openWeight, Scalar.total_eq_sum]
  | cons p ps ih =>
    have hrest : sizeTotal (relieve excess weight (p :: ps)) =
        (if p.settled then p else { p with size := p.size - share excess weight p }).size +
          sizeTotal (relieve excess weight ps) := sizeTotal_cons _ _
    rw [hrest, ih, sizeTotal_cons, openWeight_cons]
    split
    · ring
    · rw [share]
      ring

/-- The last round takes from nobody more than the level of the row does, if its own level is no higher or
all who can give way are spent at that of the row. -/
theorem relieve_shrunk (hps : List.Forall₂ (Stands level) ds ps) (hlevel : 0 ≤ level)
    (hds : ∀ d ∈ ds, 0 ≤ d.basis ∧ 0 ≤ d.shrink) (hexcess : 0 ≤ excess) (hweight : 0 < weight)
    (hround : (∀ d ∈ ds, 0 < d.shrink * d.basis → 1 ≤ level * d.shrink) ∨ excess ≤ level * weight)
    (hleft : ∀ p ∈ ps, p.settled = false → 0 < p.size - share excess weight p) :
    List.Forall₂ (fun d p => Shrunk level d p.size) ds (relieve excess weight ps) := by
  induction hps with
  | nil => exact .nil
  | @cons d p ds ps hp hps ih =>
    obtain ⟨⟨hbasis, hshrink⟩, hdsrest⟩ := List.forall_mem_cons.mp hds
    obtain ⟨hfirst, hrest⟩ := List.forall_mem_cons.mp hleft
    refine .cons ?_ (ih hdsrest (hround.imp_left fun h d hd => h d (List.mem_cons_of_mem _ hd)) hrest)
    cases hp with
    | rigid hrigid => exact (Stands.rigid hrigid).shrunk hlevel hbasis hshrink
    | emptied hgives hspent => exact (Stands.emptied hgives hspent).shrunk hlevel hbasis hshrink
    | untouched hgives =>
      have hsize : 0 < d.basis - excess * (d.shrink * d.basis) / weight := hfirst rfl
      have hpart : 0 ≤ excess * (d.shrink * d.basis) / weight := by positivity
      change Shrunk level d (d.basis - excess * (d.shrink * d.basis) / weight)
      refine ⟨?_, by linarith, fun hrigid => absurd hrigid hgives.ne'⟩
      rcases hround with hspent | hle
      · rw [Demand.kept_of_spent hbasis (hspent d List.mem_cons_self hgives)]
        exact hsize.le
      · have hshare : excess * (d.shrink * d.basis) / weight ≤ level * (d.shrink * d.basis) := by
          rw [div_le_iff₀ hweight]
          nlinarith
        refine max_le hsize.le ?_
        linarith

/-- The items keep at a level no less than they have now, less what the level takes from the open ones. -/
theorem sub_le_keptTotal (hps : List.Forall₂ (Stands level) ds ps) (hds : ∀ d ∈ ds, 0 ≤ d.basis) :
    sizeTotal ps - level * openWeight ps ≤ keptTotal level ds := by
  rw [keptTotal_eq_sum]
  induction hps with
  | nil => simp [sizeTotal, openWeight, Scalar.total_eq_sum]
  | @cons d p ds ps hp hps ih =>
    obtain ⟨hbasis, hdsrest⟩ := List.forall_mem_cons.mp hds
    have hrest := ih hdsrest
    have hfirst : p.size - level * (if p.settled then 0 else p.weight) ≤ d.kept level := by
      cases hp with
      | rigid hrigid => simpa using (Demand.kept_of_rigid hbasis hrigid).ge
      | emptied => simpa using d.kept_nonneg level
      | untouched => exact d.sub_le_kept level
    rw [sizeTotal_cons, openWeight_cons, List.map_cons, List.sum_cons]
    linarith

/-- The level that a round goes by is no higher than that of the row, unless all who can give way are
spent at that one. -/
theorem spent_or_excess_le {available : Rat} (hps : List.Forall₂ (Stands level) ds ps)
    (hds : ∀ d ∈ ds, 0 ≤ d.basis ∧ 0 ≤ d.shrink)
    (hgoal : keptTotal level ds = max available (rigidTotal ds))
    (htotal : sizeTotal ps = available + excess) :
    (∀ d ∈ ds, 0 < d.shrink * d.basis → 1 ≤ level * d.shrink) ∨
      excess ≤ level * openWeight ps := by
  -- The row keeps what the rigid items take, or it keeps the room.
  rcases le_total available (rigidTotal ds) with hrigid | hroom
  · rw [max_eq_right hrigid] at hgoal
    exact .inl fun d hd hgives => spent_of_keptTotal_le hds hgoal.le hd hgives
  · rw [max_eq_left hroom] at hgoal
    have hle := sub_le_keptTotal hps fun d hd => (hds d hd).1
    right
    linarith

/-- Whoever a round asks for everything is spent at the level of the row. -/
theorem spent_of_asked {available : Rat} (hps : List.Forall₂ (Stands level) ds ps)
    (hds : ∀ d ∈ ds, 0 ≤ d.basis ∧ 0 ≤ d.shrink)
    (hgoal : keptTotal level ds = max available (rigidTotal ds))
    (htotal : sizeTotal ps = available + excess) (hpos : 0 < openWeight ps) :
    ∀ d ∈ ds, 0 < d.shrink * d.basis →
      d.basis * openWeight ps ≤ excess * (d.shrink * d.basis) → 1 ≤ level * d.shrink := by
  intro d hd hgives hasked
  rcases spent_or_excess_le hps hds hgoal htotal with hspent | hle
  · exact hspent d hd hgives
  · -- Divide what the item is asked for by its basis.
    have hbasis : 0 < d.basis := pos_of_mul_pos_right hgives (hds d hd).2
    have hlong : d.basis * openWeight ps ≤ level * openWeight ps * (d.shrink * d.basis) :=
      hasked.trans (mul_le_mul_of_nonneg_right hle hgives.le)
    have hscaled : 1 * (d.basis * openWeight ps) ≤
        level * d.shrink * (d.basis * openWeight ps) := by linarith
    exact le_of_mul_le_mul_right hscaled (mul_pos hbasis hpos)

theorem openWeight_nonneg (hps : List.Forall₂ (Stands level) ds ps) : 0 ≤ openWeight ps := by
  induction hps with
  | nil => simp [openWeight, Scalar.total_eq_sum]
  | cons hp _ ih =>
    rw [openWeight_cons]
    cases hp with
    | rigid | emptied => simpa using ih
    | untouched hgives => simpa using add_nonneg hgives.le ih

/-- Without open items that have a weight, only the items that cannot give way have a length. -/
theorem of_openWeight_nonpos (hps : List.Forall₂ (Stands level) ds ps) (hnone : openWeight ps ≤ 0) :
    sizeTotal ps = rigidTotal ds ∧
      List.Forall₂ (fun d p => 0 < d.shrink * d.basis → p.size = 0) ds ps := by
  rw [rigidTotal_eq_sum]
  induction hps with
  | nil => exact ⟨rfl, .nil⟩
  | @cons d p ds ps hp hps ih =>
    have hrest := openWeight_nonneg hps
    rw [openWeight_cons] at hnone
    cases hp with
    | rigid hrigid =>
      obtain ⟨htotal, hempty⟩ := ih (by simpa using hnone)
      refine ⟨?_, .cons (fun hgives => absurd hrigid hgives.ne') hempty⟩
      rw [sizeTotal_cons, List.map_cons, List.sum_cons, if_pos hrigid, htotal]
    | emptied hgives =>
      obtain ⟨htotal, hempty⟩ := ih (by simpa using hnone)
      refine ⟨?_, .cons (fun _ => rfl) hempty⟩
      rw [sizeTotal_cons, List.map_cons, List.sum_cons, if_neg hgives.ne', htotal]
    | untouched hgives =>
      simp only [Bool.false_eq_true, if_false] at hnone
      linarith

/-- The lengths that a row may be given: each one possible for its item, and together no less than the
room and hardly more than the room or, if that is more, the items that cannot give way. -/
structure Outcome (level available : Rat) (ds : List (Demand Rat)) (qs : List (Sizing Rat)) : Prop where
  shrunk : List.Forall₂ (fun d q => Shrunk level d q.size) ds qs
  fills : available ≤ sizeTotal qs
  fits : sizeTotal qs ≤ max available (rigidTotal ds) + Scalar.tolerance
  exhausted : available + Scalar.tolerance < sizeTotal qs →
    List.Forall₂ (fun d q => 0 < d.shrink * d.basis → q.size = 0) ds qs

theorem standing_shrunk (hlevel : 0 ≤ level) (hds : ∀ d ∈ ds, 0 ≤ d.basis ∧ 0 ≤ d.shrink)
    (hps : List.Forall₂ (Stands level) ds ps) :
    List.Forall₂ (fun d p => Shrunk level d p.size) ds ps := by
  induction hps with
  | nil => exact .nil
  | cons hp _ ih =>
    obtain ⟨⟨hbasis, hshrink⟩, hrest⟩ := List.forall_mem_cons.mp hds
    exact .cons (hp.shrunk hlevel hbasis hshrink) (ih hrest)

theorem nonneg_weight_of_stands (hps : List.Forall₂ (Stands level) ds ps) :
    ∀ p ∈ ps, p.settled = false → 0 ≤ p.weight := by
  induction hps with
  | nil => simp
  | cons hp _ ih =>
    refine List.forall_mem_cons.mpr ⟨fun hopen => ?_, ih⟩
    cases hp with
    | rigid | emptied => exact Bool.noConfusion hopen
    | untouched hgives => exact hgives.le

/-- Shrinking comes to an outcome from wherever the items stand. -/
theorem shrink_outcome {available : Rat} (hlevel : 0 ≤ level)
    (hds : ∀ d ∈ ds, 0 ≤ d.basis ∧ 0 ≤ d.shrink)
    (hgoal : keptTotal level ds = max available (rigidTotal ds))
    (hps : List.Forall₂ (Stands level) ds ps) (hexcess : 0 ≤ excess)
    (htotal : sizeTotal ps = available + excess) : Outcome level available ds (shrink excess ps) := by
  have htolerance := Scalar.tolerance_pos
  have hroom : available ≤ max available (rigidTotal ds) := le_max_left _ _
  have hrigid : rigidTotal ds ≤ max available (rigidTotal ds) := le_max_right _ _
  induction excess, ps using Sizing.shrink.induct with
  | case1 excess ps hover weight hweight =>
    -- Nobody is left who could give way.
    obtain ⟨hleft, hempty⟩ := of_openWeight_nonpos hps hweight
    rw [shrink, if_pos hover]
    dsimp only
    rw [if_pos hweight]
    exact ⟨standing_shrunk hlevel hds hps, by linarith, by linarith, fun _ => hempty⟩
  | case2 excess ps hover weight hweight round hfewer ih =>
    -- Somebody is fixed. The items still stand, with as much too much as the round leaves.
    have hpos : 0 < openWeight ps := not_le.mp hweight
    have hround := spent_of_asked hps hds hgoal htotal hpos
    have hleft := settle_left_ge hexcess hpos (nonneg_weight_of_stands hps) excess
    rw [div_mul_cancel₀ _ hpos.ne', sub_self] at hleft
    have hbalance : (settle excess (openWeight ps) excess ps).2 -
        sizeTotal (settle excess (openWeight ps) excess ps).1 = excess - sizeTotal ps := settle_left _
    rw [shrink, if_pos hover]
    dsimp only
    rw [if_neg hweight, if_pos hfewer]
    refine ih (settle_stands hps hpos hround excess) hleft ?_
    linarith
  | case3 excess ps hover weight hweight round hfewer =>
    -- Nobody is fixed, so the open items can give all of the excess at once.
    have hpos : 0 < openWeight ps := not_le.mp hweight
    have hbound := spent_or_excess_le hps hds hgoal htotal
    have hkept := lt_of_openCount_settle (not_lt.mp hfewer)
    have hshrunk := relieve_shrunk hps hlevel hds hexcess hpos hbound hkept
    have hsum : sizeTotal (relieve excess (openWeight ps) ps) = available := by
      rw [sizeTotal_relieve, div_mul_cancel₀ _ hpos.ne', htotal]
      ring
    rw [shrink, if_pos hover]
    dsimp only
    rw [if_neg hweight, if_neg hfewer]
    refine ⟨hshrunk, hsum.ge, ?_, fun hmore => ?_⟩
    · rw [hsum]
      linarith
    · rw [hsum] at hmore
      linarith
  | case4 excess ps hover =>
    -- What is left of the excess is within the tolerance.
    have hwithin : excess ≤ Scalar.tolerance := not_lt.mp hover
    rw [shrink, if_neg hover]
    exact ⟨standing_shrunk hlevel hds hps, by linarith, by linarith, fun hmore => by linarith⟩

theorem keptTotal_le_sizeTotal {qs : List (Sizing Rat)}
    (hkept : List.Forall₂ (fun d q => d.kept level ≤ q.size) ds qs) :
    keptTotal level ds ≤ sizeTotal qs := by
  rw [keptTotal_eq_sum]
  induction hkept with
  | nil => exact le_rfl
  | cons hd _ ih =>
    rw [List.map_cons, List.sum_cons, sizeTotal_cons]
    exact add_le_add hd ih

/-- Lengths that together are over what the items keep by no more than the tolerance are so one by one. -/
theorem kept_le_and_le_add {qs : List (Sizing Rat)}
    (hkept : List.Forall₂ (fun d q => d.kept level ≤ q.size) ds qs)
    (hfits : sizeTotal qs ≤ keptTotal level ds + Scalar.tolerance) :
    List.Forall₂ (fun d q => d.kept level ≤ q.size ∧ q.size ≤ d.kept level + Scalar.tolerance)
      ds qs := by
  induction hkept with
  | nil => exact .nil
  | @cons d q ds qs hd hrest ih =>
    have hsplit : keptTotal level (d :: ds) = d.kept level + keptTotal level ds := by
      rw [keptTotal_eq_sum, keptTotal_eq_sum, List.map_cons, List.sum_cons]
    have hbelow := keptTotal_le_sizeTotal hrest
    rw [sizeTotal_cons, hsplit] at hfits
    refine .cons ⟨hd, ?_⟩ (ih ?_)
    · linarith
    · linarith

end

end Sizing

/-- What a row comes to whose bases together need more than the room: every item keeps at least what a
common level leaves it, and hardly more. The level is the one at which the row takes the room or, if that
is more, what the items take that cannot give way. -/
structure ShrunkTo (available : Rat) (ds : List (Demand Rat)) (r : Distribution Rat) : Prop where
  within : List.Forall₂ (fun d size => 0 ≤ size ∧ size ≤ d.basis) ds r.sizes
  rigid : List.Forall₂ (fun d size => d.shrink * d.basis = 0 → size = d.basis) ds r.sizes
  fills : available ≤ Scalar.total r.sizes
  fits : Scalar.total r.sizes ≤ max available (rigidTotal ds) + Scalar.tolerance
  levelled : ∃ level, 0 ≤ level ∧ keptTotal level ds = max available (rigidTotal ds) ∧
    List.Forall₂ (fun d size => d.kept level ≤ size ∧ size ≤ d.kept level + Scalar.tolerance)
      ds r.sizes
  overflow_eq : r.overflow =
    if Scalar.tolerance < Scalar.total r.sizes - available then Scalar.total r.sizes - available else 0
  exhausted : 0 < r.overflow →
    List.Forall₂ (fun d size => 0 < d.shrink * d.basis → size = 0) ds r.sizes

/-- A row whose bases together need too much has the lengths that shrinking comes to. -/
theorem distribute_of_over {ds : List (Demand Rat)} {available : Rat}
    (hover : available < Scalar.total (ds.map Demand.basis)) :
    (distribute ds available).sizes = shrinkBy (Scalar.total (ds.map Demand.basis) - available) ds := by
  have hneg : available - Scalar.total (ds.map Demand.basis) < 0 := by linarith
  rw [distribute]
  dsimp only
  rw [if_neg hneg.not_gt, if_pos hneg, neg_sub]

/-- Shrinking in rounds comes to what a common level leaves every item. -/
theorem distribute_shrunkTo (ds : List (Demand Rat)) (available : Rat)
    (hds : ∀ d ∈ ds, 0 ≤ d.basis ∧ 0 ≤ d.shrink)
    (hover : available < Scalar.total (ds.map Demand.basis)) :
    ShrunkTo available ds (distribute ds available) := by
  have hbases : ∀ d ∈ ds, 0 ≤ d.basis := fun d hd => (hds d hd).1
  have hhigh : max available (rigidTotal ds) ≤ keptTotal 0 ds := by
    refine max_le ?_ (rigidTotal_le_keptTotal hds 0)
    rw [keptTotal_zero hbases]
    exact hover.le
  obtain ⟨level, hlevel, hgoal⟩ := exists_level_above hds le_rfl (le_max_right _ _) hhigh
  let excess := Scalar.total (ds.map Demand.basis) - available
  let qs := Sizing.shrink excess (ds.map Sizing.ofDemand)
  have hsizes : (distribute ds available).sizes = qs.map Sizing.size := distribute_of_over hover
  have htotal : Scalar.total (distribute ds available).sizes = Sizing.sizeTotal qs := by
    rw [hsizes]
    rfl
  -- To begin with, every item stands at its basis.
  have hstands : List.Forall₂ (Sizing.Stands level) ds (ds.map Sizing.ofDemand) := by
    rw [List.forall₂_map_right_iff, List.forall₂_same]
    exact fun d hd => Sizing.stands_ofDemand (hds d hd).1 (hds d hd).2
  have hstart : Sizing.sizeTotal (ds.map Sizing.ofDemand) = available + excess := by
    have hbasis : (ds.map Sizing.ofDemand).map Sizing.size = ds.map Demand.basis := by
      rw [List.map_map]
      rfl
    rw [Sizing.sizeTotal, hbasis]
    exact (add_sub_cancel _ _).symm
  have hq : Sizing.Outcome level available ds qs :=
    Sizing.shrink_outcome hlevel hds hgoal hstands (sub_nonneg.mpr hover.le) hstart
  have hkept : List.Forall₂ (fun d q => d.kept level ≤ q.size) ds qs :=
    hq.shrunk.imp fun _ _ h => h.kept_le
  have hfits : Sizing.sizeTotal qs ≤ keptTotal level ds + Scalar.tolerance := by
    rw [hgoal]
    exact hq.fits
  have hoverflow : (distribute ds available).overflow =
      if Scalar.tolerance < Scalar.total (distribute ds available).sizes - available
      then Scalar.total (distribute ds available).sizes - available else 0 := rfl
  refine ⟨?_, ?_, ?_, ?_, ⟨level, hlevel, hgoal, ?_⟩, hoverflow, fun hpos => ?_⟩
  · rw [hsizes, List.forall₂_map_right_iff]
    exact hq.shrunk.imp fun d _ h => ⟨(d.kept_nonneg level).trans h.kept_le, h.le_basis⟩
  · rw [hsizes, List.forall₂_map_right_iff]
    exact hq.shrunk.imp fun _ _ h => h.rigid
  · rw [htotal]
    exact hq.fills
  · rw [htotal]
    exact hq.fits
  · rw [hsizes, List.forall₂_map_right_iff]
    exact Sizing.kept_le_and_le_add hkept hfits
  · rw [hsizes, List.forall₂_map_right_iff]
    refine hq.exhausted ?_
    rw [hoverflow, htotal] at hpos
    split at hpos
    · linarith
    · exact absurd hpos (lt_irrefl 0)

/-- An item that gives way ten times as readily is fixed at nothing, and the other one gives the rest. -/
theorem distribute_shrunkTo_pair :
    (∀ d ∈ [(⟨100, 0, 1⟩ : Demand Rat), ⟨50, 0, 10⟩], 0 ≤ d.basis ∧ 0 ≤ d.shrink) ∧
      (60 : Rat) < Scalar.total ([⟨100, 0, 1⟩, ⟨50, 0, 10⟩].map Demand.basis) ∧
      ShrunkTo 60 [⟨100, 0, 1⟩, ⟨50, 0, 10⟩] (distribute [⟨100, 0, 1⟩, ⟨50, 0, 10⟩] 60) :=
  ⟨by decide, by decide +kernel, distribute_shrunkTo _ _ (by decide) (by decide +kernel)⟩

end ResponsiveLayout
