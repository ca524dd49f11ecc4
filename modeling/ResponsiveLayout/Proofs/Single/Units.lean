import Mathlib
import ResponsiveLayout.Scalar

/-! Single precision in whole numbers. Every finite number is a multiple of the least positive one, so that
it can be read as an integer, and infinity as the first integer out of reach. Numbers then compare as these
integers do, and what is not a number compares with nothing. -/
namespace ResponsiveLayout.Single

open Float.Model (Format UnpackedFloat)
open Float.Model.UnpackedFloat (Sign)

/-- Where infinity stands: at the first power of two that no finite number reaches. -/
def beyond : ℕ := 2 ^ 24 * 2 ^ 253

/-- A mantissa with its exponent in units of the least positive number. -/
def unitsOf (m : ℕ) (e : ℤ) : ℕ := m * 2 ^ (e + 149).toNat

/-- An unpacked number in units; what is not a number has none. -/
def unpackedUnits? : UnpackedFloat → Option ℤ
  | .notANumber => none
  | .infinity s => some (s.apply beyond)
  | .zero _ => some 0
  | .finite s m e _ => some (s.apply (unitsOf m e))

/-- A mantissa and an exponent in the one form that single precision gives them. -/
structure Canonical (m : ℕ) (e : ℤ) : Prop where
  lt : m < 2 ^ 24
  low : -149 ≤ e
  high : e ≤ 104
  full : e = -149 ∨ 2 ^ 23 ≤ m

/-- An unpacked number that has come out of single precision. -/
def Formed : UnpackedFloat → Prop
  | .finite _ m e _ => Canonical m e
  | _ => True

theorem beyond_pos : 0 < beyond := Nat.mul_pos (Nat.two_pow_pos _) (Nat.two_pow_pos _)

theorem beyond_eq : beyond = 2 ^ 23 * 2 ^ 254 := by decide

theorem unitsOf_pos {m : ℕ} (hm : 0 < m) (e : ℤ) : 0 < unitsOf m e :=
  Nat.mul_pos hm (Nat.two_pow_pos _)

namespace Canonical

variable {m m' : ℕ} {e e' : ℤ}

theorem unitsOf_lt_beyond (h : Canonical m e) : unitsOf m e < beyond := by
  have hhigh := h.high
  calc
    m * 2 ^ (e + 149).toNat < 2 ^ 24 * 2 ^ (e + 149).toNat :=
      Nat.mul_lt_mul_of_pos_right h.lt (Nat.two_pow_pos _)
    _ ≤ 2 ^ 24 * 2 ^ 253 := Nat.mul_le_mul_left _ (Nat.pow_le_pow_right (by decide) (by omega))

/-- A greater exponent makes a greater number, whatever the mantissas are. -/
theorem unitsOf_lt_of_lt (h : Canonical m e) (h' : Canonical m' e') (he : e < e') :
    unitsOf m e < unitsOf m' e' := by
  have hlow := h.low
  have hfull : 2 ^ 23 ≤ m' := h'.full.resolve_left (by omega)
  calc
    m * 2 ^ (e + 149).toNat < 2 ^ 24 * 2 ^ (e + 149).toNat :=
      Nat.mul_lt_mul_of_pos_right h.lt (Nat.two_pow_pos _)
    _ = 2 ^ 23 * 2 ^ ((e + 149).toNat + 1) := by rw [Nat.pow_succ']; omega
    _ ≤ m' * 2 ^ (e' + 149).toNat :=
      Nat.mul_le_mul hfull (Nat.pow_le_pow_right (by decide) (by omega))

/-- Positive numbers compare by their exponents first and then by their mantissas. -/
theorem compare_eq (h : Canonical m e) (h' : Canonical m' e') :
    (compare e e').then (compare m m') = compare (unitsOf m e : ℤ) (unitsOf m' e') := by
  rcases lt_trichotomy e e' with he | rfl | he
  · have hless : (unitsOf m e : ℤ) < unitsOf m' e' := by exact_mod_cast h.unitsOf_lt_of_lt h' he
    rw [compare_lt_iff_lt.mpr he, compare_lt_iff_lt.mpr hless, Ordering.lt_then]
  · have hscale : StrictMono fun m : ℕ => (unitsOf m e : ℤ) :=
      fun m m' hm => Int.ofNat_lt.mpr (Nat.mul_lt_mul_of_pos_right hm (Nat.two_pow_pos _))
    rw [compare_eq_iff_eq.mpr rfl, Ordering.eq_then, ← cmp_eq_compare, ← cmp_eq_compare]
    exact (hscale.cmp_map_eq m m').symm
  · have hless : (unitsOf m' e' : ℤ) < unitsOf m e := by exact_mod_cast h'.unitsOf_lt_of_lt h he
    rw [compare_gt_iff_gt.mpr he, compare_gt_iff_gt.mpr hless, Ordering.gt_then]

end Canonical

/-- Negative numbers compare the other way round. -/
theorem compare_neg (p q : ℤ) : (compare p q).swap = compare (-p) (-q) := by
  have hanti : StrictAnti fun n : ℤ => -n := fun _ _ h => Int.neg_lt_neg h
  rw [← cmp_eq_compare, ← cmp_eq_compare, cmp_swap]
  exact (hanti.cmp_map_eq p q).symm

theorem unpackedUnits?_compare {a b : UnpackedFloat} (ha : Formed a) (hb : Formed b) :
    a.compare b = (unpackedUnits? a).bind fun p => (unpackedUnits? b).map (compare p) := by
  have hbeyond : (0 : ℤ) < beyond := by exact_mod_cast beyond_pos
  have hfinite {m : ℕ} {e : ℤ} (hm : 0 < m) (h : Canonical m e) :
      (0 : ℤ) < unitsOf m e ∧ (unitsOf m e : ℤ) < beyond :=
    ⟨by exact_mod_cast unitsOf_pos hm e, by exact_mod_cast h.unitsOf_lt_beyond⟩
  have hlt {p q : ℤ} (h : p < q) : some .lt = some (compare p q) := by rw [compare_lt_iff_lt.mpr h]
  have hgt {p q : ℤ} (h : q < p) : some .gt = some (compare p q) := by rw [compare_gt_iff_gt.mpr h]
  have heq (p : ℤ) : some .eq = some (compare p p) := by rw [compare_eq_iff_eq.mpr rfl]
  cases a with
  | notANumber => rfl
  | infinity s =>
    cases b with
    | notANumber => cases s <;> rfl
    | infinity s' =>
      cases s <;> cases s'
      · exact heq _
      · exact hlt (by simp only [Sign.apply]; omega)
      · exact hgt (by simp only [Sign.apply]; omega)
      · exact heq _
    | zero s' =>
      cases s
      · exact hlt (by simp only [Sign.apply]; omega)
      · exact hgt hbeyond
    | finite s' m' e' hm' =>
      obtain ⟨hpos, hless⟩ := hfinite hm' hb
      cases s
      · exact hlt (by cases s' <;> simp only [Sign.apply] <;> omega)
      · exact hgt (by cases s' <;> simp only [Sign.apply] <;> omega)
  | zero s =>
    cases b with
    | notANumber => rfl
    | infinity s' =>
      cases s'
      · exact hgt (by simp only [Sign.apply]; omega)
      · exact hlt hbeyond
    | zero s' => exact heq 0
    | finite s' m' e' hm' =>
      obtain ⟨hpos, hless⟩ := hfinite hm' hb
      cases s'
      · exact hgt (by simp only [Sign.apply]; omega)
      · exact hlt hpos
  | finite s m e hm =>
    obtain ⟨hpos, hless⟩ := hfinite hm ha
    cases b with
    | notANumber => cases s <;> rfl
    | infinity s' =>
      cases s'
      · exact hgt (by cases s <;> simp only [Sign.apply] <;> omega)
      · exact hlt (by cases s <;> simp only [Sign.apply] <;> omega)
    | zero s' =>
      cases s
      · exact hlt (by simp only [Sign.apply]; omega)
      · exact hgt hpos
    | finite s' m' e' hm' =>
      obtain ⟨hpos', hless'⟩ := hfinite hm' hb
      cases s <;> cases s'
      · rw [UnpackedFloat.compare, Canonical.compare_eq ha hb, compare_neg]
        rfl
      · exact hlt (by simp only [Sign.apply]; omega)
      · exact hgt (by simp only [Sign.apply]; omega)
      · exact congrArg some (Canonical.compare_eq ha hb)

theorem formed_unpack (b : BitVec Format.binary32.numBits) :
    Formed (UnpackedFloat.unpack Format.binary32 b) := by
  have hbias : Format.binary32.exponentBias = 127 := rfl
  fun_cases UnpackedFloat.unpack with
  | case4 mantissa exponent e sign s hinf hzero hm =>
    have hmantissa : mantissa.toNat < 2 ^ 23 := mantissa.isLt
    have he : e + 1 = -149 := by
      simp only [e, exponent, hzero, hbias]
      rfl
    rw [Formed, he]
    exact ⟨by omega, le_rfl, by decide, .inl rfl⟩
  | case5 mantissa exponent e sign s hinf hzero =>
    have hmantissa : mantissa.toNat < 2 ^ 23 := mantissa.isLt
    have hexponent : exponent.toNat < 2 ^ 8 := exponent.isLt
    have hpos : exponent.toNat ≠ 0 := fun h => hzero (BitVec.eq_of_toNat_eq h)
    have hless : exponent.toNat ≠ 255 := fun h => hinf (BitVec.eq_of_toNat_eq h)
    have he : e = exponent.toNat - 150 := rfl
    have hm : (1#1 ++ mantissa).toNat = 2 ^ 23 + mantissa.toNat := by
      rw [BitVec.toNat_append, ← Nat.shiftLeft_add_eq_or_of_lt mantissa.isLt]
      rfl
    rw [Formed]
    exact ⟨by omega, by omega, by omega, .inr (by omega)⟩
  | _ => trivial

/-- A number in units of the least positive one. -/
def units? (x : Float32) : Option ℤ := unpackedUnits? x.toModel.unpack

variable {x y z : Float32}

theorem compare_units? (x y : Float32) :
    x.toModel.unpack.compare y.toModel.unpack =
      (units? x).bind fun p => (units? y).map (compare p) :=
  unpackedUnits?_compare (formed_unpack _) (formed_unpack _)

theorem le_iff : x ≤ y ↔ ∃ p q, units? x = some p ∧ units? y = some q ∧ p ≤ q := by
  refine (decide_eq_true_iff (p := x.toModel ≤ y.toModel)).trans ?_
  change (x.toModel.unpack.compare y.toModel.unpack).any (·.isLE) = true ↔ _
  rw [compare_units?]
  cases units? x with
  | none => simp
  | some p =>
    cases units? y with
    | none => simp
    | some q => simp [compare_le_iff_le, ← Ordering.ne_gt_iff_isLE]

theorem lt_iff : x < y ↔ ∃ p q, units? x = some p ∧ units? y = some q ∧ p < q := by
  refine (decide_eq_true_iff (p := x.toModel < y.toModel)).trans ?_
  change (x.toModel.unpack.compare y.toModel.unpack == some .lt) = true ↔ _
  rw [compare_units?]
  cases units? x with
  | none => simp
  | some p =>
    cases units? y with
    | none => simp
    | some q => simp [compare_lt_iff_lt]

theorem isFinite_iff : x.isFinite = true ↔ ∃ p, units? x = some p ∧ -beyond < p ∧ p < beyond := by
  have hbeyond : (0 : ℤ) < beyond := by exact_mod_cast beyond_pos
  have hformed : Formed x.toModel.unpack := formed_unpack _
  change x.toModel.unpack.isFinite = true ↔ ∃ p, unpackedUnits? x.toModel.unpack = some p ∧ _
  cases hx : x.toModel.unpack with
  | notANumber => simp [UnpackedFloat.isFinite, unpackedUnits?]
  | infinity s => cases s <;> simp [UnpackedFloat.isFinite, unpackedUnits?, Sign.apply]
  | zero s => simp [UnpackedFloat.isFinite, unpackedUnits?, beyond_pos]
  | finite s m e hm =>
    rw [hx] at hformed
    have hless : (unitsOf m e : ℤ) < beyond := by exact_mod_cast hformed.unitsOf_lt_beyond
    refine iff_of_true rfl ⟨_, rfl, ?_⟩
    cases s <;> simp only [Sign.apply] <;> omega

theorem le_trans (hxy : x ≤ y) (hyz : y ≤ z) : x ≤ z := by
  obtain ⟨p, q, hp, hq, hpq⟩ := le_iff.mp hxy
  obtain ⟨q', r, hq', hr, hqr⟩ := le_iff.mp hyz
  obtain rfl : q = q' := Option.some.inj (hq.symm.trans hq')
  exact le_iff.mpr ⟨p, r, hp, hr, hpq.trans hqr⟩

theorem le_of_lt (hxy : x < y) : x ≤ y := by
  obtain ⟨p, q, hp, hq, hpq⟩ := lt_iff.mp hxy
  exact le_iff.mpr ⟨p, q, hp, hq, hpq.le⟩

/-- Finite numbers are always comparable. -/
theorem lt_iff_not_le (hx : x.isFinite = true) (hy : y.isFinite = true) : x < y ↔ ¬ y ≤ x := by
  obtain ⟨p, hp, -⟩ := isFinite_iff.mp hx
  obtain ⟨q, hq, -⟩ := isFinite_iff.mp hy
  rw [lt_iff, le_iff, hp, hq]
  simp

theorem isNaN_iff : x.isNaN = true ↔ units? x = none := by
  change x.toModel.unpack.isNaN = true ↔ unpackedUnits? x.toModel.unpack = none
  cases x.toModel.unpack <;> simp [UnpackedFloat.isNaN, unpackedUnits?]

end ResponsiveLayout.Single
