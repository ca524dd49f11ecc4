import ResponsiveLayout.Proofs.Single.Arithmetic

/-! Products and quotients of single precision. Of these it is told only which are numbers, of which sign, and
which become zero or infinity; the lengths of a layout need no more of them. -/
namespace ResponsiveLayout.Single

open Float.Model (Format UnpackedFloat totalExponent)
open Float.Model.UnpackedFloat (Sign Accuracy ExtendedMantissa shiftToExponent shiftToTargetExponent)

variable {p : ℤ} {u v : UnpackedFloat}

/-- A mantissa that fills 24 bits already does not have to be moved to its place first. -/
theorem units_roundWithAccuracy_exact (s : Sign) {m : ℕ} {e : ℤ} (hm : 2 ^ 23 ≤ m) (he : -149 ≤ e) :
    unpackedUnits? (repack (UnpackedFloat.roundWithAccuracy Format.binary32 s m e .exact)) =
      some (s.apply (min (rounded (unitsOf m e)) beyond : ℕ)) := by
  have hpos : 0 < m := (Nat.two_pow_pos 23).trans_le hm
  have hlong : 23 ≤ m.log2 := (Nat.le_log2 hpos.ne').mpr hm
  have hplace : UnpackedFloat.decreaseExponent m e (Format.binary32.targetExponent (totalExponent m e)) =
      (m, e) := by
    have hnone : (e - max ((m.log2 : ℤ) + e - 23) (-149)).toNat = 0 := by omega
    rw [targetExponent_eq, UnpackedFloat.decreaseExponent, hnone]
    exact Prod.ext rfl (Int.sub_zero e)
  have hround := units_round s hpos he
  rw [UnpackedFloat.round, hplace] at hround
  exact hround

theorem roundedMantissa_le (m k : ℕ) (acc : Accuracy) :
    ((ExtendedMantissa.ofMantissaAndAccuracy m acc) >>> k).roundedMantissa ≤ shiftOut (m + 1) k := by
  have hquarters : quarters (ExtendedMantissa.ofMantissaAndAccuracy m acc) ≤ 4 * (m + 1) := by
    rcases acc with _ | (_ | _ | _) <;>
      simp only [ExtendedMantissa.ofMantissaAndAccuracy, quarters, Bool.toNat_true, Bool.toNat_false] <;> omega
  have hiterate : halve^[k] (quarters (ExtendedMantissa.ofMantissaAndAccuracy m acc)) ≤
      halve^[k] (4 * (m + 1)) := by
    induction k with
    | zero => exact hquarters
    | succ k ih =>
      rw [Function.iterate_succ_apply', Function.iterate_succ_apply']
      exact halve_mono ih
  rw [roundedMantissa_eq, quarters_shiftRight]
  exact nearest_mono hiterate

/-- The exponent after rounding. -/
theorem shift_exponent_le {m : ℕ} {e : ℤ} (acc : Accuracy) (hm : m < 2 ^ 25) (he : e ≤ 102) :
    let p := shiftToTargetExponent Format.binary32 m e acc
    p.1.roundedMantissa ≤ 2 ^ 24 ∧ -149 ≤ p.2 ∧ p.2 ≤ 103 := by
  have hlog : m.log2 ≤ 24 := by
    rcases m.eq_zero_or_pos with rfl | hpos
    · decide
    · exact Nat.lt_succ_iff.mp ((Nat.log2_lt hpos.ne').mpr hm)
  obtain ⟨k, hk⟩ : ∃ k, k = (max ((m.log2 : ℤ) + e - 23) (-149) - e).toNat := ⟨_, rfl⟩
  unfold shiftToTargetExponent shiftToExponent
  dsimp only
  rw [targetExponent_eq, ← hk]
  refine ⟨(roundedMantissa_le m k acc).trans (shiftOut_le ?_), by omega, by omega⟩
  rw [← Nat.pow_add]
  exact Nat.lt_log2_self.trans_le (Nat.pow_le_pow_right (by decide) (by omega))

theorem carry_exponent_le (m : ℕ) (e : ℤ) : (carry m e).2 ≤ e + 1 := by
  rw [carry]
  split
  · exact le_rfl
  · exact (lt_add_one e).le

/-- Rounding keeps the sign, and a number that is less than half the least infinite one does not reach
infinity. -/
theorem roundWithAccuracy_sign (s : Sign) (m : ℕ) (e : ℤ) (acc : Accuracy) :
    ∃ r : ℕ, unpackedUnits? (repack (UnpackedFloat.roundWithAccuracy Format.binary32 s m e acc)) =
      some (s.apply r) ∧ (m < 2 ^ 25 → e ≤ 102 → r < beyond) := by
  have hshift := shift_exponent_le (m := m) (e := e) acc
  unfold UnpackedFloat.roundWithAccuracy
  rcases hp : shiftToTargetExponent Format.binary32 m e acc with ⟨em, e₁⟩
  rw [hp] at hshift
  rcases hq : shiftToTargetExponent Format.binary32 em.roundedMantissa e₁ .exact with ⟨em₂, e₂⟩
  dsimp only
  rw [hq]
  dsimp only
  split
  · rw [repack_zero]
    exact ⟨0, by cases s <;> rfl, fun _ _ => beyond_pos⟩
  · next hne =>
    obtain ⟨r, hr, hlow⟩ := repack_finite s em₂.mantissa e₂ (Nat.pos_of_ne_zero hne)
    refine ⟨r, hr, fun hm he => hlow ?_⟩
    -- After the first shift only a carry can raise the exponent, and by one.
    obtain ⟨hmantissa, hleast, hgreatest⟩ := hshift hm he
    have hcarry := shift_carry hmantissa hleast
    rw [hq] at hcarry
    obtain ⟨-, hexponent⟩ := Prod.ext_iff.mp hcarry
    dsimp only at hexponent hgreatest
    have hup := carry_exponent_le em.roundedMantissa e₁
    omega

namespace Stands

/-- What stands at a place that is not below zero. -/
theorem nonneg_cases {p : ℕ} (hu : Stands u p) :
    u = .infinity .positive ∧ p = beyond ∨ (∃ s, u = .zero s) ∧ p = 0 ∨
      ∃ m e, ∃ hm : 0 < m, Canonical m e ∧ u = .finite .positive m e hm ∧ p = unitsOf m e := by
  obtain ⟨n, hn⟩ : ∃ n : ℤ, n = p := ⟨_, rfl⟩
  rw [← hn] at hu
  cases hu with
  | infinity s =>
    cases s with
    | negative =>
      have hbeyond := beyond_pos
      simp only [Sign.apply] at hn
      omega
    | positive => exact .inl ⟨rfl, (Int.ofNat.inj hn).symm⟩
  | zero s => exact .inr (.inl ⟨⟨s, rfl⟩, (Int.ofNat.inj hn).symm⟩)
  | @finite s m e hm h =>
    cases s with
    | negative =>
      have hpos := unitsOf_pos hm e
      simp only [Sign.apply] at hn
      omega
    | positive => exact .inr (.inr ⟨m, e, hm, h, rfl, (Int.ofNat.inj hn).symm⟩)

variable {p q : ℕ}

/-- A product of numbers that are not below zero is not below zero either, unless it is one of zero and
infinity. -/
theorem mul_nonneg (hu : Stands u p) (hv : Stands v q) :
    (p = 0 ∧ q = beyond ∨ p = beyond ∧ q = 0) ∧ UnpackedFloat.mul Format.binary32 u v = .notANumber ∨
      ∃ r : ℕ, unpackedUnits? (repack (UnpackedFloat.mul Format.binary32 u v)) = some (r : ℤ) ∧
        (p = 0 ∨ q = 0 → r = 0) := by
  have hbeyond := beyond_pos.ne'
  have hfinite {m : ℕ} (hm : 0 < m) (e : ℤ) := (unitsOf_pos hm e).ne'
  rcases hu.nonneg_cases with ⟨rfl, rfl⟩ | ⟨⟨s, rfl⟩, rfl⟩ | ⟨m, e, hm, h, rfl, rfl⟩ <;>
    rcases hv.nonneg_cases with ⟨rfl, rfl⟩ | ⟨⟨s', rfl⟩, rfl⟩ | ⟨m', e', hm', h', rfl, rfl⟩
  · exact .inr ⟨beyond, units_infinity .positive, fun h => absurd h (not_or_intro hbeyond hbeyond)⟩
  · exact .inl ⟨.inr ⟨rfl, rfl⟩, rfl⟩
  · exact .inr ⟨beyond, units_infinity .positive, fun h => absurd h (not_or_intro hbeyond (hfinite hm' e'))⟩
  · exact .inl ⟨.inl ⟨rfl, rfl⟩, rfl⟩
  · exact .inr ⟨0, units_zero _, fun _ => rfl⟩
  · exact .inr ⟨0, units_zero _, fun _ => rfl⟩
  · exact .inr ⟨beyond, units_infinity .positive, fun h => absurd h (not_or_intro (hfinite hm e) hbeyond)⟩
  · exact .inr ⟨0, units_zero _, fun _ => rfl⟩
  · obtain ⟨r, hr, -⟩ := roundWithAccuracy_sign .positive (m * m') (e + e') .exact
    exact .inr ⟨r, hr, fun h => absurd h (not_or_intro (hfinite hm e) (hfinite hm' e'))⟩

/-- A quotient of a number that is not below zero by a positive one is not below zero, unless both are
infinite. -/
theorem div_nonneg (hu : Stands u p) (hv : Stands v q) (hq : 0 < q) :
    (p = beyond ∧ q = beyond) ∧ UnpackedFloat.div Format.binary32 u v = .notANumber ∨
      ∃ r : ℕ, unpackedUnits? (repack (UnpackedFloat.div Format.binary32 u v)) = some (r : ℤ) ∧
        (q = beyond → r = 0) := by
  rcases hv.nonneg_cases with ⟨rfl, rfl⟩ | ⟨⟨s', rfl⟩, rfl⟩ | ⟨m', e', hm', h', rfl, rfl⟩ <;>
    rcases hu.nonneg_cases with ⟨rfl, rfl⟩ | ⟨⟨s, rfl⟩, rfl⟩ | ⟨m, e, hm, h, rfl, rfl⟩
  · exact .inl ⟨⟨rfl, rfl⟩, rfl⟩
  · exact .inr ⟨0, units_zero _, fun _ => rfl⟩
  · exact .inr ⟨0, units_zero _, fun _ => rfl⟩
  · exact absurd hq (lt_irrefl 0)
  · exact absurd hq (lt_irrefl 0)
  · exact absurd hq (lt_irrefl 0)
  · exact .inr ⟨beyond, units_infinity .positive, fun h => absurd h h'.unitsOf_lt_beyond.ne⟩
  · exact .inr ⟨0, units_zero _, fun _ => rfl⟩
  · obtain ⟨r, hr, -⟩ := roundWithAccuracy_sign .positive
      (UnpackedFloat.divCore Format.binary32 m e m' e').1
      (UnpackedFloat.divCore Format.binary32 m e m' e').2.1
      (UnpackedFloat.divCore Format.binary32 m e m' e').2.2
    exact .inr ⟨r, hr, fun h => absurd h h'.unitsOf_lt_beyond.ne⟩

end Stands

def two : UnpackedFloat := .finite .positive (2 ^ 23) (-22) (Nat.two_pow_pos 23)

/-- The mantissa and the exponent of a half before rounding. -/
theorem divCore_two_lt {m : ℕ} {e : ℤ} (h : Canonical m e) :
    (UnpackedFloat.divCore Format.binary32 m e (2 ^ 23) (-22)).1 < 2 ^ 25 ∧
      (UnpackedFloat.divCore Format.binary32 m e (2 ^ 23) (-22)).2.1 ≤ 102 := by
  have hlt := h.lt
  have hlow := h.low
  have hhigh := h.high
  have hlog : m.log2 ≤ 23 := by
    rcases m.eq_zero_or_pos with rfl | hpos
    · decide
    · exact Nat.lt_succ_iff.mp ((Nat.log2_lt hpos.ne').mpr hlt)
  have htarget : Format.binary32.targetExponent (totalExponent m e - totalExponent (2 ^ 23) (-22)) =
      max ((m.log2 : ℤ) + e - 25) (-149) := by
    change max ((m.log2 : ℤ) + 1 + e - (23 + 1 + -22) - 24) (-149) = _
    omega
  obtain ⟨d, hd⟩ : ∃ d, d = (e - -22 - min (e - -22) (max ((m.log2 : ℤ) + e - 25) (-149))).toNat := ⟨_, rfl⟩
  unfold UnpackedFloat.divCore
  dsimp only
  rw [htarget, ← hd, Nat.shiftLeft_eq]
  refine ⟨Nat.div_lt_of_lt_mul ?_, by omega⟩
  calc
    m * 2 ^ d < 2 ^ (m.log2 + 1) * 2 ^ d := Nat.mul_lt_mul_of_pos_right Nat.lt_log2_self (Nat.two_pow_pos d)
    _ = 2 ^ (m.log2 + 1 + d) := (Nat.pow_add ..).symm
    _ ≤ 2 ^ 48 := Nat.pow_le_pow_right (by decide) (by omega)
    _ = 2 ^ 23 * 2 ^ 25 := by decide

namespace Stands

/-- Half a number is finite or infinite as that number is. -/
theorem div_two (hu : Stands u p) :
    ∃ r, unpackedUnits? (repack (UnpackedFloat.div Format.binary32 u two)) = some r ∧
      (-beyond < p → -beyond < r) ∧ (p = -beyond → r = -beyond) := by
  have hbeyond := beyond_pos
  cases hu with
  | infinity s =>
    refine ⟨s.apply beyond, ?_, ?_, ?_⟩
    · cases s <;> exact units_infinity _
    · exact id
    · exact id
  | zero s => exact ⟨0, units_zero _, by omega, by omega⟩
  | @finite s m e hm h =>
    obtain ⟨hmantissa, hexponent⟩ := divCore_two_lt h
    obtain ⟨r, hr, hless⟩ := roundWithAccuracy_sign (s / .positive)
      (UnpackedFloat.divCore Format.binary32 m e (2 ^ 23) (-22)).1
      (UnpackedFloat.divCore Format.binary32 m e (2 ^ 23) (-22)).2.1
      (UnpackedFloat.divCore Format.binary32 m e (2 ^ 23) (-22)).2.2
    have hfinite := hless hmantissa hexponent
    have hunits := h.unitsOf_lt_beyond
    refine ⟨_, hr, fun _ => ?_, fun hp => absurd hp ?_⟩
    · cases s
      · change -(beyond : ℤ) < -(r : ℤ)
        omega
      · change -(beyond : ℤ) < (r : ℤ)
        omega
    · cases s <;> simp only [Sign.apply] <;> omega

end Stands

theorem le_rounded {m n : ℕ} (hm : m < 2 ^ 24) (j : ℕ) (h : m * 2 ^ j ≤ n) : m * 2 ^ j ≤ rounded n :=
  (rounded_eq_self hm j).ge.trans (rounded_mono h)

theorem rounded_pos {n : ℕ} (hn : 0 < n) : 0 < rounded n := le_rounded (m := 1) (by decide) 0 hn

/-- A mantissa that fills 24 bits stays above zero. -/
theorem roundWithAccuracy_pos {m : ℕ} {e : ℤ} (hm : 2 ^ 23 ≤ m) (he : -149 ≤ e) :
    ∃ r : ℕ, 0 < r ∧
      unpackedUnits? (repack (UnpackedFloat.roundWithAccuracy Format.binary32 .positive m e .exact)) =
        some (r : ℤ) :=
  ⟨_, lt_min (rounded_pos (unitsOf_pos ((Nat.two_pow_pos 23).trans_le hm) e)) beyond_pos,
    units_roundWithAccuracy_exact .positive hm he⟩

theorem units?_toFloat32 {n : ℕ} (hn : n < 2 ^ 23) :
    units? n.toUInt64.toFloat32 = some (nearestUnits (n * 2 ^ 149)) := by
  have hnat : n.toUInt64.toNat = n := Nat.mod_eq_of_lt (by omega)
  change unpackedUnits? (repack (UnpackedFloat.normalize Format.binary32 n.toUInt64.toNat 0 .positive)) = _
  rw [hnat]
  exact units_normalize n (by decide) .positive

theorem one_unpacked :
    (Float32.ofBits 1065353216).toModel.unpack = .finite .positive (2 ^ 23) (-23) (Nat.two_pow_pos 23) := rfl

/-- A number of things that is not zero is not rounded to zero. -/
theorem units?_ofNat_pos {n : ℕ} (hn : 0 < n) : ∃ r : ℕ, 0 < r ∧ units? (Float32.ofNat n) = some (r : ℤ) := by
  -- A number that fits into a mantissa is converted and multiplied by one, a greater one is rounded with 24
  -- more bits behind it; neither loses the first bit.
  by_cases hsmall : n < 2 ^ 23
  · have hmul : units? (Float32.ofNat n) = unpackedUnits? (repack (UnpackedFloat.mul Format.binary32
        n.toUInt64.toFloat32.toModel.unpack (.finite .positive (2 ^ 23) (-23) (Nat.two_pow_pos 23)))) := by
      change units? (Float32.ofScientific n false 0) = _
      rw [Float32.ofScientific, dif_pos ⟨hsmall, by decide⟩]
      change units? (n.toUInt64.toFloat32 * Float32.ofBits 1065353216) = _
      rw [units?_mul, one_unpacked]
    have hunits := units?_toFloat32 hsmall
    have hcast : (n : ℤ) * 2 ^ 149 = (n * 2 ^ 149 : ℕ) := by push_cast; rfl
    have hexact : 1 * 2 ^ 149 ≤ min (rounded (n * 2 ^ 149)) beyond :=
      le_min (le_rounded (by decide) 149 (Nat.mul_le_mul_right _ hn)) (by decide)
    rw [hcast, nearestUnits_natCast] at hunits
    rcases (stands hunits).nonneg_cases with ⟨hu, hp⟩ | ⟨⟨s, hu⟩, hp⟩ | ⟨m, e, hm, h, hu, hp⟩
    · rw [hmul, hu]
      exact ⟨beyond, beyond_pos, units_infinity .positive⟩
    · omega
    · rw [hmul, hu]
      refine roundWithAccuracy_pos (Nat.le_mul_of_pos_left _ hm) ?_
      by_contra hlow
      have hless : unitsOf m e < 2 ^ 149 := by
        calc
          m * 2 ^ (e + 149).toNat < 2 ^ 24 * 2 ^ (e + 149).toNat :=
            Nat.mul_lt_mul_of_pos_right h.lt (Nat.two_pow_pos _)
          _ = 2 ^ (24 + (e + 149).toNat) := (Nat.pow_add ..).symm
          _ ≤ 2 ^ 149 := Nat.pow_le_pow_right (by decide) (by omega)
      omega
  · have hmul : units? (Float32.ofNat n) = unpackedUnits? (repack (UnpackedFloat.roundWithAccuracy
        Format.binary32 .positive (n <<< 24 * 10 ^ 0) (-24 + 0) .exact)) := by
      change units? (Float32.ofScientific n false 0) = _
      rw [Float32.ofScientific, dif_neg fun h => hsmall h.1]
      change unpackedUnits? (repack (UnpackedFloat.ofScientific Format.binary32 n 0)) = _
      have hbits : Format.binary32.exponentBits = 8 := rfl
      rw [UnpackedFloat.ofScientific, dif_neg hn.ne', if_neg (by decide), hbits, if_neg (by omega),
        if_pos le_rfl]
      rfl
    rw [hmul]
    refine roundWithAccuracy_pos ?_ (by decide)
    rw [Nat.shiftLeft_eq]
    omega

end ResponsiveLayout.Single
