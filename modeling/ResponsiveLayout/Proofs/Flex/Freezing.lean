import Mathlib.Data.List.Forall2
import ResponsiveLayout.Proofs.Flex.Rounds
import ResponsiveLayout.Proofs.Single.Units

/-! Shrinking as a loop of rounds, in whatever numbers. A comparison of lengths cannot be trusted to bring the
loop to an end, since a difference may change nothing and what is no number fails every comparison; what ends
it is that a round that is followed by another one settles an open item. So every length is a basis, a zero,
or a difference that has been compared with zero before it was taken. -/
namespace ResponsiveLayout

namespace Sizing

variable {α : Type} [Scalar α]

/-- An open item that would have to give all it has. -/
def Exhausted (excess weight : α) (p : Sizing α) : Prop :=
  p.settled = false ∧ p.size - share excess weight p ≤ 0

instance (excess weight : α) (p : Sizing α) : Decidable (Exhausted excess weight p) :=
  inferInstanceAs (Decidable (_ ∧ _))

/-- What becomes of a row in a round: it is done, or more is to be taken from it in another round. -/
inductive Round (α : Type) where
  | last (ps : List (Sizing α))
  | again (left : α) (ps : List (Sizing α))

def Round.items : Round α → List (Sizing α)
  | last ps | again _ ps => ps

/-- A round. It ends the loop if nobody gives way, or if nobody is exhausted by giving way. -/
def round (excess : α) (ps : List (Sizing α)) : Round α :=
  if openWeight ps ≤ 0 then .last ps
  else if ∃ p ∈ ps, Exhausted excess (openWeight ps) p then
    let x := settle excess (openWeight ps) excess ps
    .again x.2 x.1
  else .last (relieve excess (openWeight ps) ps)

/-- The loop: rounds while there is more than the tolerance to take. `Loop excess ps n qs` tells that it
comes to an end after `n` rounds. -/
inductive Loop : α → List (Sizing α) → Nat → List (Sizing α) → Prop
  | done {excess : α} {ps : List (Sizing α)} (hdone : ¬ Scalar.tolerance < excess) : Loop excess ps 0 ps
  | last {excess : α} {ps qs : List (Sizing α)} (hover : Scalar.tolerance < excess)
    (hround : round excess ps = .last qs) : Loop excess ps 1 qs
  | again {excess left : α} {ps qs rs : List (Sizing α)} {n : Nat} (hover : Scalar.tolerance < excess)
    (hround : round excess ps = .again left qs) (hloop : Loop left qs n rs) : Loop excess ps (n + 1) rs

section

variable {excess weight left : α} {p : Sizing α} {ps qs : List (Sizing α)} {n : Nat}

/-- A round settles exactly the exhausted items. -/
theorem settle_eq_map (left : α) :
    (settle excess weight left ps).1 =
      ps.map fun p => if Exhausted excess weight p then p.emptied else p := by
  -- Whether an item is exhausted goes by the excess before the round, not by what is left of it by then.
  induction ps generalizing left with
  | nil => rfl
  | cons p ps ih =>
    rw [settle_cons, List.map_cons]
    by_cases hp : Exhausted excess weight p
    · rw [if_pos hp]
      exact (congrArg Prod.fst (if_pos hp)).trans (congrArg (p.emptied :: ·) (ih _))
    · rw [if_neg hp]
      exact (congrArg Prod.fst (if_neg hp)).trans (congrArg (p :: ·) (ih left))

theorem openCount_settle_lt_iff (left : α) :
    openCount (settle excess weight left ps).1 < openCount ps ↔ ∃ p ∈ ps, Exhausted excess weight p := by
  constructor
  · intro hfewer
    by_contra hnone
    have hself : settle excess weight left ps = (ps, left) :=
      settle_eq_self left fun p hp hopen hle => hnone ⟨p, hp, hopen, hle⟩
    rw [hself] at hfewer
    exact Nat.lt_irrefl _ hfewer
  · rintro ⟨p, hp, hopen, hle⟩
    by_contra hsame
    exact not_le_of_openCount_settle (Nat.le_of_not_lt hsame) p hp hopen hle

theorem eq_of_again (hround : round excess ps = .again left qs) :
    (∃ p ∈ ps, Exhausted excess (openWeight ps) p) ∧
      qs = ps.map fun p => if Exhausted excess (openWeight ps) p then p.emptied else p := by
  rw [round] at hround
  split at hround
  · cases hround
  · split at hround
    · next hsome =>
      cases hround
      exact ⟨hsome, settle_eq_map excess⟩
    · cases hround

theorem eq_of_last (hround : round excess ps = .last qs) :
    qs = ps ∨ (∀ p ∈ ps, ¬ Exhausted excess (openWeight ps) p) ∧
      qs = relieve excess (openWeight ps) ps := by
  rw [round] at hround
  split at hround
  · cases hround
    exact .inl rfl
  · split at hround
    · cases hround
    · next hnone =>
      cases hround
      exact .inr ⟨fun p hp hexhausted => hnone ⟨p, hp, hexhausted⟩, rfl⟩

theorem openCount_again (hround : round excess ps = .again left qs) : openCount qs < openCount ps := by
  obtain ⟨hsome, rfl⟩ := eq_of_again hround
  rw [← settle_eq_map excess]
  exact (openCount_settle_lt_iff excess).mpr hsome

/-- Shrinking is the loop. -/
theorem shrink_eq (excess : α) (ps : List (Sizing α)) :
    shrink excess ps =
      if Scalar.tolerance < excess then
        match round excess ps with
        | .last qs => qs
        | .again left qs => shrink left qs
      else ps := by
  rw [shrink, round]
  dsimp only
  split
  · split
    · rfl
    · simp only [openCount_settle_lt_iff]
      split <;> rfl
  · rfl

theorem exists_loop (excess : α) (ps : List (Sizing α)) : ∃ n, Loop excess ps n (shrink excess ps) := by
  -- A round that is followed by another one leaves fewer items open.
  induction hn : openCount ps using Nat.strong_induction_on generalizing excess ps with
  | _ n ih =>
    subst hn
    rw [shrink_eq]
    split
    · next hover =>
      cases hround : round excess ps with
      | last qs => exact ⟨1, .last hover hround⟩
      | again left qs =>
        obtain ⟨n, hloop⟩ := ih _ (openCount_again hround) left qs rfl
        exact ⟨n + 1, .again hover hround hloop⟩
    · next hdone => exact ⟨0, .done hdone⟩

theorem Loop.eq_shrink (hloop : Loop excess ps n qs) : qs = shrink excess ps := by
  induction hloop with
  | done hdone => rw [shrink, if_neg hdone]
  | last hover hround => rw [shrink_eq, if_pos hover, hround]
  | again hover hround _ ih => rw [shrink_eq, if_pos hover, hround, ih]

/-- Every round but the last settles an open item, so there are not many more rounds than open items. -/
theorem Loop.rounds_le (hloop : Loop excess ps n qs) : n ≤ openCount ps + 1 := by
  induction hloop with
  | done => exact Nat.zero_le _
  | last => exact Nat.le_add_left 1 _
  | again _ hround _ ih =>
    have hfewer := openCount_again hround
    omega

/-- In a round, settled items stay as they are. -/
theorem settled_kept (excess : α) (ps : List (Sizing α)) :
    List.Forall₂ (fun p q => p.settled = true → q = p) ps (round excess ps).items := by
  cases hround : round excess ps with
  | last qs =>
    rcases eq_of_last hround with rfl | ⟨-, rfl⟩
    · exact List.forall₂_same.mpr fun _ _ _ => rfl
    · exact List.forall₂_map_right_iff.mpr (List.forall₂_same.mpr fun p _ hsettled => if_pos hsettled)
  | again left qs =>
    obtain ⟨-, rfl⟩ := eq_of_again hround
    refine List.forall₂_map_right_iff.mpr (List.forall₂_same.mpr fun p _ hsettled => ?_)
    exact if_neg fun hp => Bool.noConfusion (hp.1.symm.trans hsettled)

/-- A round that is followed by another one settles an open item. -/
theorem exists_settled (hround : round excess ps = .again left qs) :
    ∃ x ∈ ps.zip qs, x.1.settled = false ∧ x.2.settled = true := by
  obtain ⟨⟨p, hp, hexhausted⟩, rfl⟩ := eq_of_again hround
  rw [← List.map_prod_left_eq_zip]
  refine ⟨_, List.mem_map_of_mem hp, hexhausted.1, ?_⟩
  rw [if_pos hexhausted]
  rfl

/-- How an item stands to what it asks for while a row is shrunk: it cannot give way and has its basis, it was
exhausted, or it has not been touched. -/
inductive Treated (d : Demand α) : Sizing α → Prop
  | rigid (hrigid : d.shrink * d.basis ≤ 0) : Treated d ⟨d.basis, d.shrink * d.basis, true⟩
  | emptied (hgives : ¬ d.shrink * d.basis ≤ 0) : Treated d ⟨0, d.shrink * d.basis, true⟩
  | untouched (hgives : ¬ d.shrink * d.basis ≤ 0) : Treated d ⟨d.basis, d.shrink * d.basis, false⟩

/-- What shrinking leaves of an item: its basis, nothing, or the difference of its basis and its part of some
excess, which is not zero or less. An item that cannot give way has its basis. -/
structure Remains (excess weight : α) (d : Demand α) (size : α) : Prop where
  cases : size = d.basis ∨ size = 0 ∨
    size = d.basis - excess * (d.shrink * d.basis) / weight ∧ ¬ size ≤ 0
  rigid : d.shrink * d.basis ≤ 0 → size = d.basis

theorem treated_ofDemand (d : Demand α) : Treated d (ofDemand d) := by
  rw [ofDemand]
  by_cases hrigid : d.shrink * d.basis ≤ 0
  · rw [decide_eq_true hrigid]
    exact .rigid hrigid
  · rw [decide_eq_false hrigid]
    exact .untouched hrigid

variable {d : Demand α} {ds : List (Demand α)}

theorem Treated.remains (hp : Treated d p) (excess weight : α) : Remains excess weight d p.size := by
  cases hp with
  | rigid => exact ⟨.inl rfl, fun _ => rfl⟩
  | emptied hgives => exact ⟨.inr (.inl rfl), fun hrigid => absurd hrigid hgives⟩
  | untouched => exact ⟨.inl rfl, fun _ => rfl⟩

theorem Treated.settled (hp : Treated d p) :
    Treated d (if Exhausted excess weight p then p.emptied else p) := by
  split
  · next hexhausted =>
    cases hp with
    | rigid | emptied => exact Bool.noConfusion hexhausted.1
    | untouched hgives => exact .emptied hgives
  · exact hp

/-- Whoever is not exhausted is left with something that is not zero or less. -/
theorem Treated.relieved (hp : Treated d p) (hkept : ¬ Exhausted excess weight p) :
    Remains excess weight d
      (if p.settled then p else { p with size := p.size - share excess weight p }).size := by
  split
  · exact hp.remains excess weight
  · next hopen =>
    cases hp with
    | rigid | emptied => exact absurd rfl hopen
    | untouched hgives =>
      exact ⟨.inr (.inr ⟨rfl, fun hle => hkept ⟨rfl, hle⟩⟩), fun hrigid => absurd hrigid hgives⟩

theorem Loop.remains (hloop : Loop excess ps n qs) (hps : List.Forall₂ Treated ds ps) :
    ∃ e w, List.Forall₂ (Remains e w) ds (qs.map size) := by
  have hrest {ps : List (Sizing α)} (hps : List.Forall₂ Treated ds ps) (e w : α) :
      List.Forall₂ (Remains e w) ds (ps.map size) :=
    List.forall₂_map_right_iff.mpr (hps.imp fun _ _ hp => hp.remains e w)
  -- Up to the last round, items are as they were or emptied, and what cannot give way is never open.
  induction hloop with
  | @done excess ps => exact ⟨excess, excess, hrest hps excess excess⟩
  | @last excess ps qs _ hround =>
    refine ⟨excess, openWeight ps, ?_⟩
    rcases eq_of_last hround with rfl | ⟨hnone, rfl⟩
    · exact hrest hps _ _
    · rw [relieve, List.map_map, List.forall₂_map_right_iff]
      refine List.forall₂_iff_zip.mpr ⟨hps.length_eq, fun hmem => ?_⟩
      exact (List.forall₂_zip hps hmem).relieved (hnone _ (List.of_mem_zip hmem).2)
  | again _ hround _ ih =>
    obtain ⟨-, rfl⟩ := eq_of_again hround
    exact ih (List.forall₂_map_right_iff.mpr (hps.imp fun _ _ hp => hp.settled))

end

end Sizing

theorem Single.not_pos_of_neg {x : Float32} (hneg : x < 0) : ¬ 0 < x := by
  intro hpos
  obtain ⟨p, q, hp, hq, hlt⟩ := lt_iff.mp hneg
  obtain ⟨q', p', hq', hp', hlt'⟩ := lt_iff.mp hpos
  cases hp.symm.trans hp'
  cases hq.symm.trans hq'
  omega

/-- A row that needs too much room has the lengths that the loop ends with. -/
theorem distribute_sizes_of_neg {α : Type} [Scalar α] {ds : List (Demand α)} {available : α}
    (hnot : ¬ 0 < available - Scalar.total (ds.map Demand.basis))
    (hover : available - Scalar.total (ds.map Demand.basis) < 0) :
    (distribute ds available).sizes =
      (Sizing.shrink (-(available - Scalar.total (ds.map Demand.basis)))
        (ds.map Sizing.ofDemand)).map Sizing.size := by
  rw [distribute]
  dsimp only
  rw [if_neg hnot, if_pos hover, shrinkBy]

/-- Whatever the numbers are: the loop of rounds comes to an end, after at most one round more than there are
items, since no settled item is ever touched and every round that is followed by another one settles an open
item. So a row that needs too much room is shrunk, and every item is left with its basis, with nothing, or
with a difference that is not zero or less, and with its basis if it cannot give way. -/
theorem distribute_frozen (ds : List (Demand Float32)) (available : Float32) :
    let start := ds.map Sizing.ofDemand
    let free := available - Scalar.total (ds.map Demand.basis)
    let sizes := (distribute ds available).sizes
    (∀ excess, (∃ n qs, Sizing.Loop excess start n qs) ∧
      ∀ n qs, Sizing.Loop excess start n qs → n ≤ ds.length + 1 ∧ qs = Sizing.shrink excess start) ∧
      (∀ (excess : Float32) ps,
        List.Forall₂ (fun p q => p.settled = true → q = p) ps (Sizing.round excess ps).items ∧
          ∀ left qs, Sizing.round excess ps = .again left qs →
            ∃ x ∈ ps.zip qs, x.1.settled = false ∧ x.2.settled = true) ∧
      (free < 0 → ∃ n qs, Sizing.Loop (-free) start n qs ∧ sizes = qs.map Sizing.size ∧
        ∃ e w, List.Forall₂ (Sizing.Remains e w) ds sizes) := by
  intro start free sizes
  have hends (excess : Float32) : ∃ n qs, Sizing.Loop excess start n qs :=
    (Sizing.exists_loop excess start).imp fun _ hloop => ⟨_, hloop⟩
  refine ⟨fun excess => ⟨hends excess, fun n qs hloop => ?_⟩, fun excess ps =>
    ⟨Sizing.settled_kept excess ps, fun left qs hround => Sizing.exists_settled hround⟩, fun hover => ?_⟩
  · have hopen : Sizing.openCount start ≤ start.length := List.countP_le_length
    have hrounds := hloop.rounds_le
    rw [List.length_map] at hopen
    exact ⟨by omega, hloop.eq_shrink⟩
  · obtain ⟨n, hloop⟩ := Sizing.exists_loop (-free) start
    have hsizes : sizes = (Sizing.shrink (-free) start).map Sizing.size :=
      distribute_sizes_of_neg (Single.not_pos_of_neg hover) hover
    have htreated : List.Forall₂ Sizing.Treated ds start :=
      List.forall₂_map_right_iff.mpr (List.forall₂_same.mpr fun d _ => Sizing.treated_ofDemand d)
    refine ⟨n, _, hloop, hsizes, ?_⟩
    rw [hsizes]
    exact hloop.remains htreated

/-- Four items of 200 in 60. The second is exhausted in the first round, the first one has to give all that
is then left over, and the others have no weight to give way with. -/
theorem distribute_frozen_twice :
    let ds : List (Demand Float32) := [⟨100, 0, 1⟩, ⟨50, 0, 10⟩, ⟨30, 0, 0⟩, ⟨20, 0, -1⟩]
    let sizes := (distribute ds 60).sizes
    (60 - Scalar.total (ds.map Demand.basis) : Float32) < 0 ∧ sizes = [10, 0, 30, 20] ∧
      ∃ e w, List.Forall₂ (Sizing.Remains e w) ds sizes := by
  intro ds sizes
  have hover : (60 - Scalar.total (ds.map Demand.basis) : Float32) < 0 := by decide +kernel
  obtain ⟨_, _, _, _, hremains⟩ := (distribute_frozen ds 60).2.2 hover
  exact ⟨hover, by decide +kernel, hremains⟩

end ResponsiveLayout
