import ResponsiveLayout.Proofs.Flex.Frames

/-! What a round of shrinking does to the items, in whatever numbers they are measured: it settles some of
them at zero and leaves the others as they are. -/
namespace ResponsiveLayout.Sizing

variable {α : Type} [Scalar α] {excess weight left : α} {p : Sizing α} {ps : List (Sizing α)}

theorem settle_cons (left : α) :
    settle excess weight left (p :: ps) =
      if p.settled = false ∧ p.size - share excess weight p ≤ 0 then
        ({ p with size := 0, settled := true } :: (settle excess weight (left - p.size) ps).1,
          (settle excess weight (left - p.size) ps).2)
      else (p :: (settle excess weight left ps).1, (settle excess weight left ps).2) := by
  rw [settle]
  simp only [Bool.and_eq_true, Bool.not_eq_true', decide_eq_true_eq]

omit [Scalar α] in
theorem openCount_cons (p : Sizing α) (ps : List (Sizing α)) :
    openCount (p :: ps) = openCount ps + if p.settled then 0 else 1 := by
  rw [openCount, openCount, List.countP_cons]
  cases p.settled <;> simp

theorem openCount_settle_le (left : α) :
    openCount (settle excess weight left ps).1 ≤ openCount ps := by
  induction ps generalizing left with
  | nil => exact Nat.le_refl _
  | cons p ps ih =>
    rw [settle_cons]
    split
    · have hrest := ih (left - p.size)
      simp only [openCount_cons, if_true]
      omega
    · have hrest := ih left
      simp only [openCount_cons]
      omega

/-- If a round settles nobody, no open item would give up everything. -/
theorem not_le_of_openCount_settle
    (hsame : openCount ps ≤ openCount (settle excess weight left ps).1) :
    ∀ p ∈ ps, p.settled = false → ¬ p.size - share excess weight p ≤ 0 := by
  induction ps generalizing left with
  | nil => simp
  | cons p ps ih =>
    rw [settle_cons] at hsame
    split at hsame
    · next hgone =>
      -- The first item would be settled, and then fewer would be open.
      have hle : openCount (settle excess weight (left - p.size) ps).1 ≤ openCount ps :=
        openCount_settle_le _
      simp only [openCount_cons, hgone.1, if_true, Bool.false_eq_true, if_false] at hsame
      omega
    · next hkept =>
      have hrest : openCount ps ≤ openCount (settle excess weight left ps).1 := by
        simp only [openCount_cons] at hsame
        omega
      intro q hq hopen
      rcases List.mem_cons.mp hq with rfl | hq
      · exact fun hle => hkept ⟨hopen, hle⟩
      · exact ih hrest q hq hopen

/-- A round that would leave every open item something changes nothing. -/
theorem settle_eq_self (left : α)
    (hkept : ∀ p ∈ ps, p.settled = false → ¬ p.size - share excess weight p ≤ 0) :
    settle excess weight left ps = (ps, left) := by
  induction ps with
  | nil => rfl
  | cons p ps ih =>
    obtain ⟨hfirst, hrest⟩ := List.forall_mem_cons.mp hkept
    rw [settle_cons, if_neg fun hgone => hfirst hgone.1 hgone.2, ih hrest]

def emptied (p : Sizing α) : Sizing α := { p with size := 0, settled := true }

/-- What holds of settled items and of items that are not touched holds after a round. -/
theorem forall_settle {P : Sizing α → Prop} (hzero : ∀ p, P p → P p.emptied) (hps : ∀ p ∈ ps, P p)
    (left : α) : ∀ p ∈ (settle excess weight left ps).1, P p := by
  induction ps generalizing left with
  | nil => exact hps
  | cons p ps ih =>
    obtain ⟨hfirst, hrest⟩ := List.forall_mem_cons.mp hps
    rw [settle_cons]
    split
    · exact List.forall_mem_cons.mpr ⟨hzero p hfirst, ih hrest _⟩
    · exact List.forall_mem_cons.mpr ⟨hfirst, ih hrest _⟩

/-- The items that are open after a round were so before. -/
theorem open_settle_sublist (left : α) :
    ((settle excess weight left ps).1.filter (!·.settled)).Sublist (ps.filter (!·.settled)) := by
  induction ps generalizing left with
  | nil => exact .refl _
  | cons p ps ih =>
    rw [settle_cons]
    split
    · next hgone =>
      rw [List.filter_cons_of_neg Bool.false_ne_true, List.filter_cons_of_pos (by rw [hgone.1]; rfl)]
      exact .cons p (ih _)
    · simp only [List.filter_cons]
      split
      · exact .cons_cons p (ih _)
      · exact ih _

end ResponsiveLayout.Sizing
