import ResponsiveLayout.Proofs.Flex.Edges
import ResponsiveLayout.Proofs.Flex.Rounds
import ResponsiveLayout.Proofs.Single.Amounts

/-! Where a row runs out of single precision. Lengths and weights are finite, but what is made of them need not
be: a shrinking row fails where infinite weights meet an infinite part of the excess, and a row that is packed
to its end or centre where it starts at minus infinity and reaches infinity. Nothing else is no number. -/
namespace ResponsiveLayout

open Single

namespace Sizing

/-- An item of finite length while a row is shrunk; one that can give way has something to give. -/
structure Sound (p : Sizing Float32) : Prop where
  size : Length p.size
  weight : Amount p.weight
  gives : p.settled = false → Positive p.size ∧ Positive p.weight

/-- The weights are too great to be added up, and so is what one of the items is to give of the excess. -/
def Swamped (excess : Float32) (ps : List (Sizing Float32)) : Prop :=
  Scalar.tolerance < excess ∧ (openWeight ps).isInf = true ∧
    ∃ p ∈ ps, p.settled = false ∧ (excess * p.weight).isInf = true

variable {excess weight left : Float32} {d : Demand Float32} {p : Sizing Float32}
  {ps : List (Sizing Float32)}

theorem sound_ofDemand (hbasis : Length d.basis) (hshrink : Length d.shrink) : Sound (ofDemand d) where
  size := hbasis
  weight := hshrink.mul hbasis
  gives hopen := by
    have hpos : Positive (d.shrink * d.basis) :=
      (hshrink.mul hbasis).positive_of_not_le rfl (of_decide_eq_false hopen)
    exact ⟨hshrink.pos_of_mul_pos hbasis hpos, hpos⟩

theorem Sound.emptied (hp : Sound p) : Sound p.emptied :=
  ⟨length_zero (z := Scalar.toZero.zero) rfl, hp.weight, Bool.noConfusion⟩

theorem positive_of_over (hover : Scalar.tolerance < excess) : Positive excess :=
  Positive.of_lt ⟨_, rfl, by decide⟩ hover

theorem amount_openWeights (hps : ∀ p ∈ ps, Sound p) :
    ∀ w ∈ (ps.filter (!·.settled)).map Sizing.weight, Amount w := by
  intro w hw
  obtain ⟨p, hp, rfl⟩ := List.mem_map.mp hw
  exact (hps p (List.mem_of_mem_filter hp)).weight

/-- The items that are open after a round weigh no more than those before it. -/
theorem length_openWeight_settle (hps : ∀ p ∈ ps, Sound p) (hfinite : Length (openWeight ps))
    (left : Float32) : Length (openWeight (settle excess weight left ps).1) :=
  length_total_of_sublist ((open_settle_sublist left).map Sizing.weight) (amount_openWeights hps) hfinite

/-- As long as the weights can be added up, every item keeps a length. -/
theorem shrink_of_finite (hps : ∀ p ∈ ps, Sound p) (hfinite : Length (openWeight ps)) :
    ∀ p ∈ shrink excess ps, Length p.size := by
  induction excess, ps using Sizing.shrink.induct with
  | case1 excess ps hover _ hweight =>
    rw [shrink, if_pos hover]
    dsimp only
    rw [if_pos hweight]
    exact fun p hp => (hps p hp).size
  | case2 excess ps hover _ hweight _ hfewer ih =>
    rw [shrink, if_pos hover]
    dsimp only
    rw [if_neg hweight, if_pos hfewer]
    exact ih (forall_settle (fun _ hp => hp.emptied) hps _) (length_openWeight_settle hps hfinite _)
  | case3 excess ps hover _ hweight _ hfewer =>
    -- Nobody was settled, so whoever gives something is left with something.
    have hkept := not_le_of_openCount_settle (Nat.le_of_not_lt hfewer)
    have hpos : Positive (openWeight ps) := hfinite.amount.positive_of_not_le rfl hweight
    rw [shrink, if_pos hover]
    dsimp only
    rw [if_neg hweight, if_neg hfewer]
    intro q hq
    obtain ⟨p, hp, rfl⟩ := List.mem_map.mp hq
    split
    · exact (hps p hp).size
    · next hopen =>
      have hopen' := Bool.eq_false_iff.mpr hopen
      have hshare : Amount (share excess (openWeight ps) p) :=
        ((positive_of_over hover).mul ((hps p hp).gives hopen').2).div hpos hfinite
      exact (hps p hp).size.sub_of_not_le rfl hshare (hkept p hp hopen')
  | case4 excess ps hover =>
    rw [shrink, if_neg hover]
    exact fun p hp => (hps p hp).size

/-- Of weights that cannot be added up, an item has no part at all unless its part of the excess is infinite
as well. -/
theorem Sound.sub_share (hp : Sound p) (hopen : p.settled = false) (hexcess : Positive excess)
    (hweight : Infinite weight) :
    (excess * p.weight).isInf = true ∧ (p.size - share excess weight p).isNaN = true ∨
      (excess * p.weight).isInf = false ∧ units? (p.size - share excess weight p) = units? p.size := by
  have hproduct : Amount (excess * p.weight) := hexcess.mul (hp.gives hopen).2
  rcases hproduct.length_or_infinite with hfinite | hinf
  · have hnot : (excess * p.weight).isInf = false :=
      Bool.eq_false_iff.mpr fun h => (hproduct.isInf_iff.mp h).not_length hfinite
    exact .inr ⟨hnot, hp.size.sub_of_zero (hfinite.div_infinite hweight)⟩
  · exact .inl ⟨hproduct.isInf_iff.mpr hinf, isNaN_sub (hinf.div_infinite hweight) _⟩

/-- Where the weights cannot be added up, the first round settles nobody and is the last one. -/
theorem shrink_of_infinite (hps : ∀ p ∈ ps, Sound p) (hover : Scalar.tolerance < excess)
    (hweight : Infinite (openWeight ps)) : shrink excess ps = relieve excess (openWeight ps) ps := by
  have hpos : Positive (openWeight ps) := ⟨_, hweight, beyond_pos⟩
  have hround : settle excess (openWeight ps) excess ps = (ps, excess) := by
    -- A part of infinite weights is zero or no number, and neither takes a size down to zero.
    refine settle_eq_self _ fun p hp hopen hle => ?_
    rcases (hps p hp).sub_share hopen (positive_of_over hover) hweight with ⟨-, hnan⟩ | ⟨-, hsame⟩
    · obtain ⟨r, -, hr, -⟩ := le_iff.mp hle
      rw [isNaN_iff, hr] at hnan
      cases hnan
    · obtain ⟨r, hr, hpos⟩ := ((hps p hp).gives hopen).1
      exact Positive.not_le rfl ⟨r, hsame.trans hr, hpos⟩ hle
  rw [shrink, if_pos hover]
  dsimp only
  rw [if_neg (hpos.not_le rfl), hround, if_neg (Nat.lt_irrefl _)]

theorem shrink_swamped (hps : ∀ p ∈ ps, Sound p) (hswamped : Swamped excess ps) :
    ∃ p ∈ shrink excess ps, p.size.isNaN = true := by
  obtain ⟨hover, hweight, p, hp, hopen, hinf⟩ := hswamped
  have hinfinite : Infinite (openWeight ps) := (amount_total (amount_openWeights hps)).isInf_iff.mp hweight
  rw [shrink_of_infinite hps hover hinfinite]
  refine ⟨_, List.mem_map_of_mem hp, ?_⟩
  rw [if_neg (Bool.eq_false_iff.mp hopen)]
  rcases (hps p hp).sub_share hopen (positive_of_over hover) hinfinite with ⟨-, hnan⟩ | ⟨hfinite, -⟩
  · exact hnan
  · exact absurd hinf (Bool.eq_false_iff.mp hfinite)

theorem length_shrink_of_not_swamped (hps : ∀ p ∈ ps, Sound p) (hnot : ¬ Swamped excess ps) :
    ∀ p ∈ shrink excess ps, Length p.size := by
  by_cases hover : Scalar.tolerance < excess
  · rcases (amount_total (amount_openWeights hps)).length_or_infinite with hfinite | hinfinite
    · exact shrink_of_finite hps hfinite
    · rw [shrink_of_infinite hps hover hinfinite]
      intro q hq
      obtain ⟨p, hp, rfl⟩ := List.mem_map.mp hq
      split
      · exact (hps p hp).size
      · next hopen =>
        have hopen' := Bool.eq_false_iff.mpr hopen
        rcases (hps p hp).sub_share hopen' (positive_of_over hover) hinfinite with ⟨hinf, -⟩ | ⟨-, hsame⟩
        · exact absurd ⟨hover, hinfinite.amount.isInf_iff.mpr hinfinite, p, hp, hopen', hinf⟩ hnot
        · obtain ⟨r, hr, hless⟩ := (hps p hp).size
          exact ⟨r, hsame.trans hr, hless⟩
  · rw [shrink, if_neg hover]
    exact fun p hp => (hps p hp).size

end Sizing

structure Demand.Sound (d : Demand Float32) : Prop where
  basis : Length d.basis
  grow : Length d.grow
  shrink : Length d.shrink

section

variable {available gap : Float32} {ds : List (Demand Float32)} {sizes : List Float32}

def excessOver (available : Float32) (ds : List (Demand Float32)) : Float32 :=
  -(available - Scalar.total (ds.map Demand.basis))

theorem amount_bases (hds : ∀ d ∈ ds, d.Sound) : ∀ b ∈ ds.map Demand.basis, Amount b := by
  intro b hb
  obtain ⟨d, hd, rfl⟩ := List.mem_map.mp hb
  exact (hds d hd).basis.amount

theorem sound_ofDemands (hds : ∀ d ∈ ds, d.Sound) : ∀ p ∈ ds.map Sizing.ofDemand, p.Sound := by
  intro p hp
  obtain ⟨d, hd, rfl⟩ := List.mem_map.mp hp
  exact Sizing.sound_ofDemand (hds d hd).basis (hds d hd).shrink

theorem sizes_swamped (hds : ∀ d ∈ ds, d.Sound) (havailable : Length available)
    (hswamped : Sizing.Swamped (excessOver available ds) (ds.map Sizing.ofDemand)) :
    ∃ l ∈ (distribute ds available).sizes, l.isNaN = true := by
  obtain ⟨p, hp⟩ := havailable.sub_number (amount_total (amount_bases hds))
  obtain ⟨q, hq, hpos⟩ := Sizing.positive_of_over hswamped.1
  have hneg : p < 0 := by
    have heq := Option.some.inj ((units?_neg_eq hp).symm.trans hq)
    omega
  rw [distribute]
  dsimp only
  split
  · next hroom =>
    obtain ⟨r, hr, -⟩ := (positive_iff rfl).mp hroom
    obtain rfl := Option.some.inj (hp.symm.trans hr)
    omega
  · split
    · obtain ⟨q, hq, hnan⟩ := Sizing.shrink_swamped (sound_ofDemands hds) hswamped
      exact ⟨q.size, List.mem_map_of_mem hq, hnan⟩
    · next hover => exact absurd (lt_iff.mpr ⟨p, 0, hp, rfl, hneg⟩) hover

/-- Growing makes nothing that is no number: the parts of the room are amounts. -/
theorem amount_growInto {free : Float32} (hds : ∀ d ∈ ds, d.Sound) (hpos : Positive free)
    (hfree : Length free) : ∀ l ∈ growInto free ds, Amount l := by
  rw [growInto]
  split
  · next hgrow =>
    intro l hl
    obtain ⟨d, hd, rfl⟩ := List.mem_map.mp hl
    have hpart := (hds d hd).grow.div ((positive_iff rfl).mp hgrow)
    exact (hds d hd).basis.amount.add (hpos.mul_amount hfree hpart)
  · exact amount_bases hds

theorem amount_sizes (hds : ∀ d ∈ ds, d.Sound) (havailable : Length available)
    (hnot : ¬ Sizing.Swamped (excessOver available ds) (ds.map Sizing.ofDemand)) :
    ∀ l ∈ (distribute ds available).sizes, Amount l := by
  rw [distribute]
  dsimp only
  split
  · next hroom =>
    obtain ⟨p, hp, hpos⟩ := (positive_iff rfl).mp hroom
    exact amount_growInto hds ⟨p, hp, hpos⟩
      (havailable.sub_length (amount_total (amount_bases hds)) hp (Int.natCast_nonneg p))
  · split
    · intro l hl
      obtain ⟨p, hp, rfl⟩ := List.mem_map.mp hl
      exact (Sizing.length_shrink_of_not_swamped (sound_ofDemands hds) hnot p hp).amount
    · exact amount_bases hds

/-- From a start that is not minus infinity, offsets stay numbers. -/
theorem above_offsetsFrom {spacing cursor : Float32} (hgap : Length gap) (hspacing : Amount spacing)
    (hsizes : ∀ l ∈ sizes, Amount l) (hcursor : Above cursor) :
    ∀ o ∈ offsetsFrom gap spacing cursor sizes, Above o := by
  induction sizes generalizing cursor with
  | nil => exact fun o ho => absurd ho List.not_mem_nil
  | cons l sizes ih =>
    obtain ⟨hfirst, hrest⟩ := List.forall_mem_cons.mp hsizes
    exact List.forall_mem_cons.mpr
      ⟨hcursor, ih hrest (hcursor.add ((hfirst.add hgap.amount).add hspacing))⟩

theorem isNaN_offsetsFrom_head {spacing cursor : Float32} (hcursor : cursor.isNaN = true) (l : Float32)
    (sizes : List Float32) : ∃ o ∈ offsetsFrom gap spacing cursor (l :: sizes), o.isNaN = true :=
  ⟨cursor, List.mem_cons_self, hcursor⟩

/-- From minus infinity, offsets stay there until an item with its gap is infinite. -/
theorem offsetsFrom_minusInfinite {spacing cursor : Float32} (hgap : Length gap)
    (hspacing : units? spacing = some 0) (hsizes : ∀ l ∈ sizes, Amount l) (hcursor : MinusInfinite cursor) :
    (∃ o ∈ offsetsFrom gap spacing cursor sizes, o.isNaN = true) ↔
      ∃ l ∈ sizes.dropLast, (l + gap).isInf = true := by
  induction sizes generalizing cursor with
  | nil => simp [offsetsFrom]
  | cons l sizes ih =>
    obtain ⟨hfirst, hrest⟩ := List.forall_mem_cons.mp hsizes
    have hstep : Amount (l + gap) := hfirst.add hgap.amount
    have hunits : units? (l + gap + spacing) = units? (l + gap) := units?_add_zero hstep hspacing
    have hnumber : ¬ cursor.isNaN = true := Bool.eq_false_iff.mp hcursor.isNaN
    rw [offsetsFrom, List.exists_mem_cons_iff, or_iff_right hnumber]
    cases sizes with
    | nil => simp [offsetsFrom]
    | cons l' sizes =>
      rw [List.dropLast_cons_cons, List.exists_mem_cons_iff]
      rcases hstep.length_or_infinite with hfinite | hinf
      · have hnot : ¬ (l + gap).isInf = true := fun h => (hstep.isInf_iff.mp h).not_length hfinite
        have hlength : Length (l + gap + spacing) := by
          obtain ⟨p, hp, hless⟩ := hfinite
          exact ⟨p, hunits.trans hp, hless⟩
        rw [or_iff_right hnot]
        exact ih hrest (hcursor.add_length hlength)
      · -- Minus infinity and infinity meet at the next offset.
        exact iff_of_true (isNaN_offsetsFrom_head (hcursor.add_infinite (hunits.trans hinf)) l' sizes)
          (.inl (hstep.isInf_iff.mpr hinf))

/-- The row starts at minus infinity where the items together are infinitely long and it is packed to its end
or centre; it starts at a number above and with an amount between the items otherwise. -/
theorem leadAndSpacing_cases (j : Justify) {n : ℕ} (hn : 0 < n) (havailable : Length available)
    (hsizes : ∀ l ∈ sizes, Amount l) :
    let r := j.leadAndSpacing (available - Scalar.total sizes) n
    (j = .center ∨ j = .end) ∧ (Scalar.total sizes).isInf = true ∧ MinusInfinite r.1 ∧
        units? r.2 = some 0 ∨
      ¬ ((j = .center ∨ j = .end) ∧ (Scalar.total sizes).isInf = true) ∧ Above r.1 ∧ Amount r.2 := by
  have htotal := amount_total hsizes
  have hspread : Length (Scalar.positive (available - Scalar.total sizes)) :=
    length_positive (havailable.sub_not_infinite htotal)
  have hzero : Above (Scalar.toZero.zero : Float32) ∧ Amount (Scalar.toZero.zero : Float32) :=
    ⟨(length_zero rfl).amount.above, (length_zero rfl).amount⟩
  have hunits : units? (Scalar.toZero.zero : Float32) = some 0 := rfl
  have hfits (hfinite : Length (Scalar.total sizes)) : ¬ (Scalar.total sizes).isInf = true :=
    fun h => (htotal.isInf_iff.mp h).not_length hfinite
  intro r
  cases j with
  | start => exact .inr ⟨by simp, hzero⟩
  | center =>
    rcases htotal.length_or_infinite with hfinite | hinf
    · exact .inr ⟨fun h => hfits hfinite h.2, (havailable.sub hfinite).half, hzero.2⟩
    · exact .inl ⟨.inl rfl, htotal.isInf_iff.mpr hinf, (havailable.sub_infinite hinf).half, hunits⟩
  | «end» =>
    rcases htotal.length_or_infinite with hfinite | hinf
    · exact .inr ⟨fun h => hfits hfinite h.2, havailable.sub hfinite, hzero.2⟩
    · exact .inl ⟨.inr rfl, htotal.isInf_iff.mpr hinf, havailable.sub_infinite hinf, hunits⟩
  | spaceBetween =>
    refine .inr ⟨by simp, ?_⟩
    by_cases hmany : 1 < n
    · have hr : r = (0, Scalar.positive (available - Scalar.total sizes) / ((n - 1 : ℕ) : Float32)) :=
        if_pos hmany
      rw [hr]
      exact ⟨hzero.1, hspread.div (positive_natCast (Nat.sub_pos_of_lt hmany))⟩
    · have hr : r = (0, 0) := if_neg hmany
      rw [hr]
      exact hzero
  | spaceAround =>
    have hspace := hspread.div (positive_natCast hn)
    exact .inr ⟨by simp, hspace.above.half, hspace⟩
  | spaceEvenly =>
    have hspace := hspread.div (positive_natCast n.succ_pos)
    exact .inr ⟨by simp, hspace.above, hspace⟩

theorem arrange_isNaN_iff (j : Justify) (hgap : Length gap) (havailable : Length available)
    (hsizes : ∀ l ∈ sizes, Amount l) :
    (∃ o ∈ arrange j sizes available gap, o.isNaN = true) ↔
      (j = .center ∨ j = .end) ∧ (Scalar.total sizes).isInf = true ∧
        ∃ l ∈ sizes.dropLast, (l + gap).isInf = true := by
  rcases Nat.eq_zero_or_pos sizes.length with hnone | hn
  · obtain rfl := List.eq_nil_of_length_eq_zero hnone
    simp [arrange, offsetsFrom]
  · rw [arrange, ← and_assoc]
    rcases leadAndSpacing_cases j hn havailable hsizes with
      ⟨hjustify, htotal, hlead, hspacing⟩ | ⟨hnot, hlead, hspacing⟩
    · rw [and_iff_right ⟨hjustify, htotal⟩]
      exact offsetsFrom_minusInfinite hgap hspacing hsizes hlead
    · refine iff_of_false ?_ fun h => hnot h.1
      rintro ⟨o, ho, hnan⟩
      have habove := above_offsetsFrom hgap hspacing hsizes hlead o ho
      exact absurd hnan (Bool.eq_false_iff.mp habove.isNaN)

end

end ResponsiveLayout
