import ResponsiveLayout.Proofs.Single.Rounding

/-! Arithmetic of single precision in whole numbers. Sums and differences of finite numbers are the exact ones
rounded; for the rest it is told which operations give numbers and of which sign. -/
namespace ResponsiveLayout.Single

open Float.Model (Format UnpackedFloat)
open Float.Model.UnpackedFloat (Sign)

/-- The units of the number that an exact result is rounded to. -/
def nearestUnits (n : ℤ) : ℤ := n.sign * (min (rounded n.natAbs) beyond : ℕ)

/-- The ways in which an unpacked number can stand at a place. -/
inductive Stands : UnpackedFloat → ℤ → Prop
  | infinity (s : Sign) : Stands (.infinity s) (s.apply beyond)
  | zero (s : Sign) : Stands (.zero s) 0
  | finite (s : Sign) {m : ℕ} {e : ℤ} (hm : 0 < m) (h : Canonical m e) :
      Stands (.finite s m e hm) (s.apply (unitsOf m e))

variable {x y : Float32} {p q : ℤ}

theorem stands (hx : units? x = some p) : Stands x.toModel.unpack p := by
  have hformed : Formed x.toModel.unpack := formed_unpack _
  rw [units?] at hx
  cases hu : x.toModel.unpack with
  | notANumber =>
    rw [hu] at hx
    cases hx
  | infinity s =>
    rw [hu] at hx
    obtain rfl := Option.some.inj hx
    exact .infinity s
  | zero s =>
    rw [hu] at hx
    obtain rfl := Option.some.inj hx
    exact .zero s
  | finite s m e hm =>
    rw [hu] at hx hformed
    obtain rfl := Option.some.inj hx
    exact .finite s hm hformed

theorem units?_add (x y : Float32) : units? (x + y) =
    unpackedUnits? (repack (UnpackedFloat.add Format.binary32 x.toModel.unpack y.toModel.unpack)) := rfl

theorem units?_sub (x y : Float32) : units? (x - y) =
    unpackedUnits? (repack (UnpackedFloat.sub Format.binary32 x.toModel.unpack y.toModel.unpack)) := rfl

theorem units?_mul (x y : Float32) : units? (x * y) =
    unpackedUnits? (repack (UnpackedFloat.mul Format.binary32 x.toModel.unpack y.toModel.unpack)) := rfl

theorem units?_div (x y : Float32) : units? (x / y) =
    unpackedUnits? (repack (UnpackedFloat.div Format.binary32 x.toModel.unpack y.toModel.unpack)) := rfl

theorem units?_neg (x : Float32) : units? (-x) =
    unpackedUnits? (repack (UnpackedFloat.neg x.toModel.unpack)) := rfl

theorem apply_neg (s : Sign) (n : ℤ) : (-s).apply n = -s.apply n := by
  cases s with
  | negative => exact (neg_neg n).symm
  | positive => rfl

theorem sub_unpacked (u v : UnpackedFloat) :
    UnpackedFloat.sub Format.binary32 u v = UnpackedFloat.add Format.binary32 u v.neg := by
  cases u with
  | notANumber => rfl
  | infinity s =>
    cases v with
    | infinity s' => cases s <;> cases s' <;> rfl
    | _ => rfl
  | zero s =>
    cases v with
    | zero s' => cases s <;> cases s' <;> rfl
    | _ => rfl
  | finite s m e hm =>
    cases v with
    | finite s' m' e' hm' =>
      rw [UnpackedFloat.neg, UnpackedFloat.sub, UnpackedFloat.add]
      dsimp only
      rw [apply_neg, Int.sub_eq_add_neg]
    | _ => rfl

theorem nearestUnits_natCast (n : ℕ) : nearestUnits n = (min (rounded n) beyond : ℕ) := by
  rcases n.eq_zero_or_pos with rfl | hn
  · rfl
  · rw [nearestUnits, Int.sign_natCast_of_ne_zero hn.ne', Int.natAbs_natCast, one_mul]

theorem nearestUnits_neg (n : ℤ) : nearestUnits (-n) = -nearestUnits n := by
  rw [nearestUnits, nearestUnits, Int.sign_neg, Int.natAbs_neg, neg_mul]

theorem nearestUnits_apply (s : Sign) (n : ℕ) :
    nearestUnits (s.apply n) = s.apply (min (rounded n) beyond : ℕ) := by
  cases s with
  | negative => exact (nearestUnits_neg n).trans (congrArg _ (nearestUnits_natCast n))
  | positive => exact nearestUnits_natCast n

theorem nearestUnits_nonneg {n : ℤ} (hn : 0 ≤ n) : 0 ≤ nearestUnits n := by
  obtain ⟨k, rfl⟩ := Int.eq_ofNat_of_zero_le hn
  rw [nearestUnits_natCast]
  exact Int.natCast_nonneg _

/-- Rounding keeps the order. -/
theorem nearestUnits_mono {n n' : ℤ} (h : n ≤ n') : nearestUnits n ≤ nearestUnits n' := by
  have hnat {k k' : ℕ} (hk : k ≤ k') : nearestUnits k ≤ nearestUnits k' := by
    rw [nearestUnits_natCast, nearestUnits_natCast]
    exact Int.ofNat_le.mpr (min_le_min_right beyond (rounded_mono hk))
  rcases le_total 0 n with hn | hn
  · obtain ⟨k, rfl⟩ := Int.eq_ofNat_of_zero_le hn
    obtain ⟨k', rfl⟩ := Int.eq_ofNat_of_zero_le (hn.trans h)
    exact hnat (Int.ofNat_le.mp h)
  · obtain ⟨k, hk⟩ := Int.eq_ofNat_of_zero_le (neg_nonneg.mpr hn)
    obtain rfl : n = -k := by omega
    rcases le_total 0 n' with hn' | hn'
    · rw [nearestUnits_neg]
      have hpos := nearestUnits_nonneg hn'
      have hpos' := nearestUnits_nonneg (Int.natCast_nonneg k)
      omega
    · obtain ⟨k', hk'⟩ := Int.eq_ofNat_of_zero_le (neg_nonneg.mpr hn')
      obtain rfl : n' = -k' := by omega
      rw [nearestUnits_neg, nearestUnits_neg]
      exact neg_le_neg (hnat (by omega))

/-- What single precision has is not changed by rounding. -/
theorem Stands.nearestUnits_eq {u : UnpackedFloat} (hu : Stands u p) : nearestUnits p = p := by
  cases hu with
  | infinity s =>
    have hexact : rounded beyond = beyond := by
      rw [beyond_eq]
      exact rounded_eq_self (by decide) 254
    rw [nearestUnits_apply, hexact, min_self]
  | zero s => rfl
  | finite s hm h =>
    rw [nearestUnits_apply, unitsOf, rounded_eq_self h.lt, ← unitsOf, min_eq_left h.unitsOf_lt_beyond.le]

theorem nearestUnits_beyond : nearestUnits beyond = beyond :=
  (Stands.infinity .positive).nearestUnits_eq

theorem nearestUnits_le_beyond (n : ℤ) : nearestUnits n ≤ beyond := by
  rcases le_total 0 n with hn | hn
  · obtain ⟨k, rfl⟩ := Int.eq_ofNat_of_zero_le hn
    rw [nearestUnits_natCast]
    exact Int.ofNat_le.mpr (min_le_right _ _)
  · exact (nearestUnits_mono hn).trans (Int.natCast_nonneg beyond)

theorem nearestUnits_of_beyond_le {n : ℤ} (hn : beyond ≤ n) : nearestUnits n = beyond :=
  (nearestUnits_le_beyond n).antisymm (nearestUnits_beyond.ge.trans (nearestUnits_mono hn))

theorem units_normalize (M : ℤ) {e : ℤ} (he : -149 ≤ e) (s : Sign) :
    unpackedUnits? (repack (UnpackedFloat.normalize Format.binary32 M e s)) =
      some (nearestUnits (M * 2 ^ (e + 149).toNat)) := by
  rw [UnpackedFloat.normalize]
  rcases lt_trichotomy M 0 with hM | rfl | hM
  · obtain ⟨k, hk⟩ := Int.eq_ofNat_of_zero_le (neg_nonneg.mpr hM.le)
    obtain rfl : M = -k := by omega
    have hexact : -(k : ℤ) * 2 ^ (e + 149).toNat = Sign.negative.apply (unitsOf k e : ℕ) := by
      rw [unitsOf, Sign.apply, Nat.cast_mul, Nat.cast_pow, neg_mul]
      rfl
    rw [compare_lt_iff_lt.mpr hM, hexact, nearestUnits_apply, neg_neg, Int.toNat_natCast]
    exact units_round .negative (by omega) he
  · rw [zero_mul]
    exact units_zero s
  · obtain ⟨k, rfl⟩ := Int.eq_ofNat_of_zero_le hM.le
    have hexact : (k : ℤ) * 2 ^ (e + 149).toNat = Sign.positive.apply (unitsOf k e : ℕ) := by
      rw [unitsOf, Sign.apply, Nat.cast_mul, Nat.cast_pow]
      rfl
    rw [compare_gt_iff_gt.mpr hM, hexact, nearestUnits_apply, Int.toNat_natCast]
    exact units_round .positive (by omega) he

namespace Stands

variable {u v : UnpackedFloat}

theorem units_repack (hu : Stands u p) : unpackedUnits? (repack u) = some p := by
  cases hu with
  | infinity s => exact units_infinity s
  | zero s => exact units_zero s
  | finite s hm h => exact congrArg unpackedUnits? (repack_canonical s hm h)

/-- A number before infinity on both sides is zero or has a mantissa and an exponent. -/
theorem finite_cases (hu : Stands u p) (hlow : -beyond < p) (hhigh : p < beyond) :
    (∃ s, u = .zero s ∧ p = 0) ∨
      ∃ s m e, ∃ hm : 0 < m, Canonical m e ∧ u = .finite s m e hm ∧ p = s.apply (unitsOf m e) := by
  cases hu with
  | infinity s =>
    cases s with
    | negative => exact absurd hlow (lt_irrefl _)
    | positive => exact absurd hhigh (lt_irrefl _)
  | zero s => exact .inl ⟨s, rfl, rfl⟩
  | finite s hm h => exact .inr ⟨s, _, _, hm, h, rfl, rfl⟩

theorem eq_infinity (hu : Stands u p) {s : Sign} (hp : p = s.apply beyond) : u = .infinity s := by
  have hbeyond : (0 : ℤ) < beyond := by exact_mod_cast beyond_pos
  cases hu with
  | infinity s' =>
    cases s <;> cases s'
    · rfl
    · simp only [Sign.apply] at hp
      omega
    · simp only [Sign.apply] at hp
      omega
    · rfl
  | zero s' => cases s <;> simp only [Sign.apply] at hp <;> omega
  | finite s' hm h =>
    have hless := Int.ofNat_lt.mpr h.unitsOf_lt_beyond
    cases s <;> cases s' <;> simp only [Sign.apply] at hp <;> omega

theorem neg (hu : Stands u p) : Stands u.neg (-p) := by
  cases hu with
  | infinity s =>
    rw [← apply_neg]
    exact .infinity (-s)
  | zero s => exact .zero (-s)
  | finite s hm h =>
    rw [← apply_neg]
    exact .finite (-s) hm h

/-- Infinity swallows everything but the opposite infinity. -/
theorem infinity_add (s : Sign) (hv : Stands v q) (hq : q ≠ (-s).apply beyond) :
    UnpackedFloat.add Format.binary32 (.infinity s) v = .infinity s := by
  cases hv with
  | infinity s' => cases s <;> cases s' <;> first | rfl | exact absurd rfl hq
  | zero s' => rfl
  | finite s' hm h => rfl

theorem add_infinity (hu : Stands u p) (s : Sign) (hp : p ≠ (-s).apply beyond) :
    UnpackedFloat.add Format.binary32 u (.infinity s) = .infinity s := by
  cases hu with
  | infinity s' => cases s <;> cases s' <;> first | rfl | exact absurd rfl hp
  | zero s' => rfl
  | finite s' hm h => rfl

theorem shifted (s : Sign) (m : ℕ) {e e' : ℤ} (he : -149 ≤ e) (hle : e ≤ e') :
    s.apply (m <<< (e' - e).toNat : ℕ) * 2 ^ (e + 149).toNat = s.apply (unitsOf m e') := by
  have hexponent : (e' + 149).toNat = (e' - e).toNat + (e + 149).toNat := by omega
  have hexact : m <<< (e' - e).toNat * 2 ^ (e + 149).toNat = unitsOf m e' := by
    rw [unitsOf, hexponent, Nat.pow_add, Nat.shiftLeft_eq, Nat.mul_assoc]
  rw [← hexact]
  cases s with
  | negative => simp only [Sign.apply, Nat.cast_mul, Nat.cast_pow, Nat.cast_ofNat, neg_mul]
  | positive => simp only [Sign.apply, Nat.cast_mul, Nat.cast_pow, Nat.cast_ofNat]

/-- The sum of finite numbers is the exact one rounded. -/
theorem add (hu : Stands u p) (hv : Stands v q) (hp : -beyond < p ∧ p < beyond)
    (hq : -beyond < q ∧ q < beyond) :
    unpackedUnits? (repack (UnpackedFloat.add Format.binary32 u v)) = some (nearestUnits (p + q)) := by
  rcases hu.finite_cases hp.1 hp.2 with ⟨s, rfl, rfl⟩ | ⟨s, m, e, hm, h, rfl, rfl⟩
  · rw [zero_add, hv.nearestUnits_eq]
    rcases hv.finite_cases hq.1 hq.2 with ⟨s', rfl, rfl⟩ | ⟨s', m', e', hm', h', rfl, rfl⟩
    · cases s <;> cases s' <;> exact units_zero _
    · exact hv.units_repack
  · rcases hv.finite_cases hq.1 hq.2 with ⟨s', rfl, rfl⟩ | ⟨s', m', e', hm', h', rfl, rfl⟩
    · rw [add_zero, hu.nearestUnits_eq]
      exact hu.units_repack
    · have hlow : -149 ≤ min e e' := le_min h.low h'.low
      rw [← shifted s m hlow (min_le_left e e'), ← shifted s' m' hlow (min_le_right e e'), ← add_mul]
      exact units_normalize _ hlow .positive

end Stands

end ResponsiveLayout.Single
