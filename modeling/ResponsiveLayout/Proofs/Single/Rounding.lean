import ResponsiveLayout.Proofs.Single.Packing

/-! Rounding to single precision in whole numbers. A number is rounded by shifting out the bits that are too
many, to the nearest mantissa and on a tie to the even one. The rounded number depends on the exact one only,
keeps the order, and is the exact one itself where single precision has it. -/
namespace ResponsiveLayout.Single

open Float.Model (Format UnpackedFloat totalExponent)
open Float.Model.UnpackedFloat (Sign Accuracy ExtendedMantissa shiftToExponent shiftToTargetExponent)

/-- A mantissa with the bits shifted out of it in quarters: the round bit counts two and the sticky bit one. -/
def quarters (em : ExtendedMantissa) : ℕ := 4 * em.mantissa + 2 * em.roundBit.toNat + em.stickyBit.toNat

/-- One more bit shifted out. -/
def halve (c : ℕ) : ℕ := 2 * (c / 4) + min 1 (c % 4)

/-- The nearest mantissa, the even one on a tie. -/
def nearest (c : ℕ) : ℕ := (c + 1 + c / 4 % 2) / 4

theorem nearest_eq (m : ℕ) {r : ℕ} (hr : r < 4) : nearest (4 * m + r) = (4 * m + r + 1 + m % 2) / 4 := by
  have hquot : (4 * m + r) / 4 = m := by omega
  rw [nearest, hquot]

theorem roundedMantissa_eq (em : ExtendedMantissa) : em.roundedMantissa = nearest (quarters em) := by
  obtain ⟨m, r, s⟩ := em
  have hr : r.toNat ≤ 1 := r.toNat_le
  have hs : s.toNat ≤ 1 := s.toNat_le
  rw [quarters, Nat.add_assoc, nearest_eq m (by dsimp only; omega)]
  cases r <;> cases s <;> simp only [ExtendedMantissa.roundedMantissa, ExtendedMantissa.accuracy,
    Accuracy.roundToNearestEven, Bool.toNat_true, Bool.toNat_false] <;> omega

theorem quarters_shiftRightOne (em : ExtendedMantissa) :
    quarters em.shiftRightOne = halve (quarters em) := by
  obtain ⟨m, r, s⟩ := em
  have hbit : (m % 2 != 0).toNat = m % 2 := by
    rcases Nat.mod_two_eq_zero_or_one m with h | h <;> simp [h]
  have hsticky : (r || s).toNat = min 1 (2 * r.toNat + s.toNat) := by
    cases r <;> cases s <;> rfl
  have hr : r.toNat ≤ 1 := r.toNat_le
  have hs : s.toNat ≤ 1 := s.toNat_le
  simp only [ExtendedMantissa.shiftRightOne, quarters, halve, hbit, hsticky]
  omega

theorem quarters_shiftRight (em : ExtendedMantissa) (n : ℕ) :
    quarters (em >>> n) = halve^[n] (quarters em) := by
  induction n with
  | zero => rfl
  | succ n ih =>
    rw [Function.iterate_succ_apply', ← ih]
    exact quarters_shiftRightOne _

theorem nearest_mono {c c' : ℕ} (h : c ≤ c') : nearest c ≤ nearest c' := by
  rcases h.lt_or_eq with hlt | rfl
  · exact Nat.div_le_div_right (by omega)
  · exact le_rfl

theorem halve_mono {c c' : ℕ} (h : c ≤ c') : halve c ≤ halve c' := by
  unfold halve
  omega

/-- A mantissa without its last bits, rounded. -/
def shiftOut (m k : ℕ) : ℕ := nearest (halve^[k] (4 * m))

theorem shiftOut_mono {m m' : ℕ} (h : m ≤ m') (k : ℕ) : shiftOut m k ≤ shiftOut m' k := by
  refine nearest_mono ?_
  induction k with
  | zero => exact Nat.mul_le_mul_left 4 h
  | succ k ih =>
    rw [Function.iterate_succ_apply', Function.iterate_succ_apply']
    exact halve_mono ih

/-- Zeros that are shifted out leave no trace. -/
theorem shiftOut_mul_two_pow (m d k : ℕ) : shiftOut (m * 2 ^ d) (k + d) = shiftOut m k := by
  have hzeros : halve^[d] (4 * (m * 2 ^ d)) = 4 * m := by
    induction d generalizing m with
    | zero => simp
    | succ d ih =>
      rw [Function.iterate_succ_apply', Nat.pow_succ', ← Nat.mul_assoc m, ih, halve]
      omega
  rw [shiftOut, Function.iterate_add_apply, hzeros, shiftOut]

theorem shiftOut_zero (m : ℕ) : shiftOut m 0 = m := by
  change nearest (4 * m) = m
  unfold nearest
  omega

theorem shiftOut_le {n m k : ℕ} (h : n ≤ m * 2 ^ k) : shiftOut n k ≤ m := by
  have hexact := shiftOut_mul_two_pow m k 0
  rw [Nat.zero_add, shiftOut_zero] at hexact
  exact (shiftOut_mono h k).trans hexact.le

theorem le_shiftOut {n m k : ℕ} (h : m * 2 ^ k ≤ n) : m ≤ shiftOut n k := by
  have hexact := shiftOut_mul_two_pow m k 0
  rw [Nat.zero_add, shiftOut_zero] at hexact
  exact hexact.ge.trans (shiftOut_mono h k)

/-- A number of units rounded to 24 significant bits. -/
def rounded (n : ℕ) : ℕ := shiftOut n (n.log2 - 23) * 2 ^ (n.log2 - 23)

theorem shiftOut_lt (n : ℕ) : shiftOut n (n.log2 - 23) ≤ 2 ^ 24 := by
  refine shiftOut_le ?_
  rw [← Nat.pow_add]
  exact Nat.lt_log2_self.le.trans (Nat.pow_le_pow_right (by decide) (by omega))

/-- A mantissa that something is shifted out of stays long. -/
theorem le_shiftOut_log2 {n : ℕ} (hn : 23 < n.log2) : 2 ^ 23 ≤ shiftOut n (n.log2 - 23) := by
  refine le_shiftOut ?_
  rw [← Nat.pow_add, Nat.add_sub_of_le hn.le]
  exact Nat.log2_self_le (by rintro rfl; simp at hn)

theorem log2_mono {n n' : ℕ} (h : n ≤ n') : n.log2 ≤ n'.log2 := by
  rcases n.eq_zero_or_pos with rfl | hn
  · rw [Nat.log2_zero]
    exact Nat.zero_le _
  · exact (Nat.le_log2 (by omega)).mpr ((Nat.log2_self_le hn.ne').trans h)

theorem log2_mul_two_pow {m : ℕ} (hm : 0 < m) (d : ℕ) : (m * 2 ^ d).log2 = m.log2 + d := by
  rw [Nat.log2_eq_iff (Nat.mul_pos hm (Nat.two_pow_pos d)).ne', Nat.add_right_comm, Nat.pow_add, Nat.pow_add]
  exact ⟨Nat.mul_le_mul_right _ (Nat.log2_self_le hm.ne'),
    Nat.mul_lt_mul_of_pos_right Nat.lt_log2_self (Nat.two_pow_pos d)⟩

theorem rounded_mono {n n' : ℕ} (h : n ≤ n') : rounded n ≤ rounded n' := by
  rcases Nat.eq_or_lt_of_le (Nat.sub_le_sub_right (log2_mono h) 23) with heq | hless
  · rw [rounded, rounded, heq]
    exact Nat.mul_le_mul_right _ (shiftOut_mono h _)
  · -- The shorter number is rounded to no more than the power of two that the longer one is not below.
    calc
      rounded n ≤ 2 ^ 24 * 2 ^ (n.log2 - 23) := Nat.mul_le_mul_right _ (shiftOut_lt n)
      _ = 2 ^ 23 * 2 ^ (n.log2 - 23 + 1) := by rw [Nat.pow_succ']; omega
      _ ≤ 2 ^ 23 * 2 ^ (n'.log2 - 23) := Nat.mul_le_mul_left _ (Nat.pow_le_pow_right (by decide) hless)
      _ ≤ rounded n' := Nat.mul_le_mul_right _ (le_shiftOut_log2 (by omega))

/-- A number with at most 24 significant bits is not changed. -/
theorem rounded_eq_self {m : ℕ} (hm : m < 2 ^ 24) (j : ℕ) : rounded (m * 2 ^ j) = m * 2 ^ j := by
  rcases m.eq_zero_or_pos with rfl | hpos
  · rw [Nat.zero_mul]
    rfl
  · have hm23 : m.log2 < 24 := (Nat.log2_lt hpos.ne').mpr hm
    obtain ⟨k, hk⟩ : ∃ k, k = (m * 2 ^ j).log2 - 23 := ⟨_, rfl⟩
    obtain ⟨d, rfl⟩ : ∃ d, j = d + k := by
      refine ⟨j - k, ?_⟩
      rw [log2_mul_two_pow hpos] at hk
      omega
    have hexact := shiftOut_mul_two_pow (m * 2 ^ d) k 0
    rw [Nat.zero_add, shiftOut_zero, Nat.mul_assoc, ← Nat.pow_add] at hexact
    rw [rounded, ← hk, hexact, Nat.mul_assoc, ← Nat.pow_add]

/-- A mantissa of 25 bits, as it comes out of rounding up, gives a bit to the exponent. -/
def carry (m : ℕ) (e : ℤ) : ℕ × ℤ := if m = 2 ^ 24 then (2 ^ 23, e + 1) else (m, e)

theorem targetExponent_eq (m : ℕ) (e : ℤ) :
    Format.binary32.targetExponent (totalExponent m e) = max (m.log2 + e - 23) (-149) := by
  change max ((m.log2 : ℤ) + 1 + e - 24) (-149) = _
  omega

theorem shift_exact (m k : ℕ) :
    ((ExtendedMantissa.ofMantissaAndAccuracy m .exact) >>> k).roundedMantissa = shiftOut m k := by
  rw [roundedMantissa_eq, quarters_shiftRight, shiftOut]
  rfl

/-- After rounding only a carry is left to do. -/
theorem shift_carry {m : ℕ} {e : ℤ} (hm : m ≤ 2 ^ 24) (he : -149 ≤ e) :
    let p := shiftToTargetExponent Format.binary32 m e .exact
    (p.1.mantissa, p.2) = carry m e := by
  rw [shiftToTargetExponent, shiftToExponent, targetExponent_eq]
  dsimp only
  rw [carry]
  split
  · next h =>
    have hlog : m.log2 = 24 := h ▸ Nat.log2_two_pow
    have hamount : (max ((m.log2 : ℤ) + e - 23) (-149) - e).toNat = 1 := by omega
    rw [hamount, h]
    rfl
  · next h =>
    have hlog : m.log2 ≤ 23 := by
      rcases m.eq_zero_or_pos with rfl | hpos
      · decide
      · exact Nat.lt_succ_iff.mp ((Nat.log2_lt hpos.ne').mpr (by omega))
    have hamount : (max ((m.log2 : ℤ) + e - 23) (-149) - e).toNat = 0 := by omega
    rw [hamount]
    exact Prod.ext rfl (Int.add_zero e)

theorem unitsOf_carry (m : ℕ) {e : ℤ} (he : -149 ≤ e) : unitsOf (carry m e).1 (carry m e).2 = unitsOf m e := by
  rw [carry]
  split
  · next h =>
    have hexponent : (e + 1 + 149).toNat = (e + 149).toNat + 1 := by omega
    rw [unitsOf, unitsOf, hexponent, Nat.pow_succ', h]
    omega
  · rfl

theorem units_carry (s : Sign) {m : ℕ} {e : ℤ} (hm : m ≤ 2 ^ 24) (he : -149 ≤ e)
    (hfull : e = -149 ∨ 2 ^ 23 ≤ m) (hpos : 0 < (carry m e).1) :
    unpackedUnits? (repack (.finite s (carry m e).1 (carry m e).2 hpos)) =
      some (s.apply (min (unitsOf m e) beyond : ℕ)) := by
  rw [← unitsOf_carry m he]
  unfold carry at hpos ⊢
  split
  · exact units_repack s _ (by change 2 ^ 23 < 2 ^ 24; decide) (by dsimp only; omega) (.inr le_rfl)
  · exact units_repack s _ (by dsimp only; omega) he hfull

/-- A mantissa brought to 24 bits, packed and read back. -/
theorem units_roundWithAccuracy (s : Sign) {m : ℕ} {e : ℤ} (acc : Accuracy) {r : ℕ} {e' : ℤ}
    (hfirst : let p := shiftToTargetExponent Format.binary32 m e acc
      p.1.roundedMantissa = r ∧ p.2 = e')
    (hr : r ≤ 2 ^ 24) (he' : -149 ≤ e') (hfull : e' = -149 ∨ 2 ^ 23 ≤ r) :
    unpackedUnits? (repack (UnpackedFloat.roundWithAccuracy Format.binary32 s m e acc)) =
      some (s.apply (min (unitsOf r e') beyond : ℕ)) := by
  rcases hp : shiftToTargetExponent Format.binary32 m e acc with ⟨em, e₁⟩
  rw [hp] at hfirst
  obtain ⟨rfl, rfl⟩ := hfirst
  have hcarry := shift_carry hr he'
  rcases hq : shiftToTargetExponent Format.binary32 em.roundedMantissa e₁ .exact with ⟨em₂, e₂⟩
  rw [hq] at hcarry
  obtain ⟨hm₂, rfl⟩ := Prod.ext_iff.mp hcarry
  dsimp only at hm₂
  rw [UnpackedFloat.roundWithAccuracy, hp]
  dsimp only
  rw [hq]
  dsimp only
  split
  · next hzero =>
    have hnone : em.roundedMantissa = 0 := by
      rw [hzero, carry] at hm₂
      split at hm₂
      · cases hm₂
      · exact hm₂.symm
    have hunits : min (unitsOf em.roundedMantissa e₁) beyond = 0 := by
      rw [hnone, unitsOf, Nat.zero_mul, Nat.zero_min]
    rw [repack_zero, hunits]
    cases s <;> rfl
  · next hne =>
    rw [finite_congr s _ (by omega) hm₂ rfl]
    exact units_carry s hr he' hfull _

theorem unitsOf_sub (m k : ℕ) : unitsOf m (k - 149) = m * 2 ^ k := by
  rw [unitsOf, Int.sub_add_cancel, Int.toNat_natCast]

/-- A mantissa shifted to its place for rounding, to the left or to the right. -/
theorem shift_to_place {m : ℕ} (hm : 0 < m) {e : ℤ} (he : -149 ≤ e) {k : ℕ}
    (hk : max ((m.log2 : ℤ) + e - 23) (-149) = k - 149) :
    let p := UnpackedFloat.decreaseExponent m e (k - 149)
    let q := shiftToTargetExponent Format.binary32 p.1 p.2 .exact
    q.1.roundedMantissa = shiftOut (unitsOf m e) k ∧ q.2 = k - 149 := by
  obtain ⟨d, hd⟩ : ∃ d : ℕ, (e - (k - 149)).toNat = d := ⟨_, rfl⟩
  have hlog : ((m <<< d).log2 : ℤ) + (e - d) = m.log2 + e := by
    rw [Nat.shiftLeft_eq, log2_mul_two_pow hm]
    push_cast
    omega
  obtain ⟨a, ha⟩ : ∃ a : ℕ, ((k : ℤ) - 149 - (e - d)).toNat = a := ⟨_, rfl⟩
  unfold UnpackedFloat.decreaseExponent shiftToTargetExponent shiftToExponent
  dsimp only
  rw [hd, targetExponent_eq, hlog, hk, ha, shift_exact, Nat.shiftLeft_eq, unitsOf]
  refine ⟨?_, by omega⟩
  -- A short mantissa is shifted to the left only, a long one to the right only.
  rcases Nat.eq_zero_or_pos a with rfl | hpos
  · have hshift : (e + 149).toNat = d + k := by omega
    have hexact := shiftOut_mul_two_pow (m * 2 ^ d) k 0
    rw [hshift, Nat.pow_add, ← Nat.mul_assoc, ← hexact, Nat.zero_add]
  · have hleft : d = 0 := by omega
    have hright : k = a + (e + 149).toNat := by omega
    rw [hleft, hright, shiftOut_mul_two_pow, Nat.pow_zero, Nat.mul_one]

/-- A number that is rounded stands where its units, rounded, stand, or at infinity if that is less. -/
theorem units_round (s : Sign) {m : ℕ} {e : ℤ} (hm : 0 < m) (he : -149 ≤ e) :
    unpackedUnits? (repack (UnpackedFloat.round Format.binary32 s m e)) =
      some (s.apply (min (rounded (unitsOf m e)) beyond : ℕ)) := by
  obtain ⟨k, hk⟩ : ∃ k, k = (unitsOf m e).log2 - 23 := ⟨_, rfl⟩
  have hlog : (unitsOf m e).log2 = m.log2 + (e + 149).toNat := log2_mul_two_pow hm _
  have hplace : max ((m.log2 : ℤ) + e - 23) (-149) = k - 149 := by omega
  have hlong : (k : ℤ) - 149 = -149 ∨ 2 ^ 23 ≤ shiftOut (unitsOf m e) k := by
    rcases Nat.eq_zero_or_pos k with rfl | hpos
    · exact .inl rfl
    · rw [hk]
      exact .inr (le_shiftOut_log2 (by omega))
  have hshort : shiftOut (unitsOf m e) k ≤ 2 ^ 24 := hk ▸ shiftOut_lt _
  rw [rounded, ← hk, ← unitsOf_sub, UnpackedFloat.round, targetExponent_eq, hplace]
  exact units_roundWithAccuracy s .exact (shift_to_place hm he hplace) hshort (by omega) hlong

end ResponsiveLayout.Single
