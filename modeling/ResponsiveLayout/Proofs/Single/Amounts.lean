import ResponsiveLayout.Proofs.Single.Products

/-! Lengths and weights in single precision. Sums of them stay in order; what is taken from a length stays a
number; and a sum, product or quotient is no number only where infinity meets its opposite, zero or itself. -/
namespace ResponsiveLayout.Single

open Float.Model (UnpackedFloat)
open Float.Model.UnpackedFloat (Sign)

/-- A number that is not below zero. Infinity is one. -/
def Amount (x : Float32) : Prop := ∃ p : ℕ, units? x = some (p : ℤ)

/-- A finite number that is not below zero. -/
def Length (x : Float32) : Prop := ∃ p : ℕ, units? x = some (p : ℤ) ∧ p < beyond

def Positive (x : Float32) : Prop := ∃ p : ℕ, units? x = some (p : ℤ) ∧ 0 < p

def Infinite (x : Float32) : Prop := units? x = some (beyond : ℤ)

/-- A number above minus infinity. -/
def Above (x : Float32) : Prop := ∃ p : ℤ, units? x = some p ∧ -beyond < p

def MinusInfinite (x : Float32) : Prop := units? x = some (-beyond : ℤ)

variable {x y z : Float32}

theorem natUnits_inj {p q : ℕ} (hp : units? x = some (p : ℤ)) (hq : units? x = some (q : ℤ)) : p = q :=
  Int.ofNat.inj (Option.some.inj (hp.symm.trans hq))

theorem Length.amount (hx : Length x) : Amount x := hx.imp fun _ hp => hp.1

theorem Positive.amount (hx : Positive x) : Amount x := hx.imp fun _ hp => hp.1

theorem Infinite.amount (hx : Infinite x) : Amount x := ⟨beyond, hx⟩

theorem Amount.above (hx : Amount x) : Above x := by
  obtain ⟨p, hp⟩ := hx
  have hbeyond := beyond_pos
  exact ⟨p, hp, by omega⟩

theorem Infinite.not_length (hx : Infinite x) : ¬ Length x := by
  rintro ⟨p, hp, hless⟩
  have heq := Option.some.inj (hp.symm.trans hx)
  omega

theorem Amount.length_or_infinite (hx : Amount x) : Length x ∨ Infinite x := by
  obtain ⟨p, hp⟩ := hx
  rcases (stands hp).nonneg_cases with ⟨-, rfl⟩ | ⟨-, rfl⟩ | ⟨m, e, -, h, -, rfl⟩
  · exact .inr hp
  · exact .inl ⟨0, hp, beyond_pos⟩
  · exact .inl ⟨_, hp, h.unitsOf_lt_beyond⟩

theorem isNaN_eq_false_iff : x.isNaN = false ↔ ∃ p, units? x = some p := by
  rw [← Bool.not_eq_true, isNaN_iff]
  exact Option.ne_none_iff_exists'

theorem Above.isNaN (hx : Above x) : x.isNaN = false :=
  isNaN_eq_false_iff.mpr (hx.imp fun _ hp => hp.1)

theorem MinusInfinite.isNaN (hx : MinusInfinite x) : x.isNaN = false := isNaN_eq_false_iff.mpr ⟨_, hx⟩

theorem isInf_iff : x.isInf = true ↔ Infinite x ∨ MinusInfinite x := by
  have hbeyond := beyond_pos
  have hformed : Formed x.toModel.unpack := formed_unpack _
  change x.toModel.unpack.isInf = true ↔ unpackedUnits? x.toModel.unpack = _ ∨
    unpackedUnits? x.toModel.unpack = _
  cases hx : x.toModel.unpack with
  | notANumber => simp [UnpackedFloat.isInf, unpackedUnits?]
  | infinity s => cases s <;> simp [UnpackedFloat.isInf, unpackedUnits?, Sign.apply]
  | zero s =>
    refine iff_of_false Bool.false_ne_true ?_
    simp only [unpackedUnits?, Option.some.injEq]
    omega
  | finite s m e hm =>
    rw [hx] at hformed
    have hless := Canonical.unitsOf_lt_beyond hformed
    refine iff_of_false Bool.false_ne_true ?_
    simp only [unpackedUnits?, Option.some.injEq]
    cases s <;> simp only [Sign.apply] <;> omega

theorem Amount.isInf_iff (hx : Amount x) : x.isInf = true ↔ Infinite x := by
  refine Single.isInf_iff.trans (or_iff_left ?_)
  rintro hlow
  obtain ⟨p, hp⟩ := hx
  have heq := Option.some.inj (hp.symm.trans hlow)
  have hbeyond := beyond_pos
  omega

theorem length_iff (hz : units? z = some 0) : Length x ↔ x.isFinite = true ∧ z ≤ x := by
  rw [isFinite_iff, le_iff]
  constructor
  · rintro ⟨p, hp, hless⟩
    exact ⟨⟨p, hp, by omega⟩, ⟨0, p, hz, hp, by omega⟩⟩
  · rintro ⟨⟨p, hp, -, hless⟩, ⟨q, p', hq, hp', hle⟩⟩
    obtain rfl : p = p' := Option.some.inj (hp.symm.trans hp')
    obtain rfl : 0 = q := Option.some.inj (hz.symm.trans hq)
    obtain ⟨k, rfl⟩ := Int.eq_ofNat_of_zero_le hle
    exact ⟨k, hp, by omega⟩

theorem positive_iff (hz : units? z = some 0) : z < x ↔ Positive x := by
  rw [lt_iff]
  constructor
  · rintro ⟨q, p, hq, hp, hless⟩
    obtain rfl : 0 = q := Option.some.inj (hz.symm.trans hq)
    obtain ⟨k, rfl⟩ := Int.eq_ofNat_of_zero_le hless.le
    exact ⟨k, hp, by omega⟩
  · rintro ⟨p, hp, hless⟩
    exact ⟨0, p, hz, hp, by omega⟩

theorem Amount.positive_of_not_le (hz : units? z = some 0) (hx : Amount x) (h : ¬ x ≤ z) : Positive x := by
  obtain ⟨p, hp⟩ := hx
  refine ⟨p, hp, Nat.pos_of_ne_zero ?_⟩
  rintro rfl
  exact h (le_iff.mpr ⟨_, _, hp, hz, le_rfl⟩)

theorem Positive.not_le (hz : units? z = some 0) (hx : Positive x) : ¬ x ≤ z := by
  rw [le_iff]
  rintro ⟨p, q, hp, hq, hle⟩
  obtain rfl : 0 = q := Option.some.inj (hz.symm.trans hq)
  obtain ⟨k, hk, hpos⟩ := hx
  obtain rfl := Option.some.inj (hp.symm.trans hk)
  omega

theorem Positive.of_lt (hx : Positive x) (hxy : x < y) : Positive y := by
  obtain ⟨p, hp, hpos⟩ := hx
  obtain ⟨p', q, hp', hq, hless⟩ := lt_iff.mp hxy
  obtain rfl := Option.some.inj (hp.symm.trans hp')
  obtain ⟨k, rfl⟩ := Int.eq_ofNat_of_zero_le (a := q) (by omega)
  exact ⟨k, hq, by omega⟩

theorem units?_neg_eq {p : ℤ} (hx : units? x = some p) : units? (-x) = some (-p) := by
  rw [units?_neg]
  exact (stands hx).neg.units_repack

/-- Sums of amounts are the exact ones rounded, infinity being what lies beyond. -/
theorem units?_add_nat {p q : ℕ} (hx : units? x = some (p : ℤ)) (hy : units? y = some (q : ℤ)) :
    units? (x + y) = some ((min (rounded (p + q)) beyond : ℕ) : ℤ) := by
  have hbeyond := beyond_pos
  have hinfinity : unpackedUnits? (repack (.infinity .positive)) = some (beyond : ℤ) :=
    units_infinity .positive
  have hneg {k : ℕ} : (k : ℤ) ≠ (-Sign.positive).apply beyond := by
    change (k : ℤ) ≠ -(beyond : ℤ)
    omega
  rw [units?_add, ← nearestUnits_natCast, Nat.cast_add]
  rcases (Amount.length_or_infinite ⟨p, hx⟩) with ⟨p', hp', hpless⟩ | hinf
  · obtain rfl := natUnits_inj hx hp'
    rcases (Amount.length_or_infinite ⟨q, hy⟩) with ⟨q', hq', hqless⟩ | hinf
    · obtain rfl := natUnits_inj hy hq'
      exact (stands hx).add (stands hy) (by omega) (by omega)
    · obtain rfl := natUnits_inj hy hinf
      rw [(stands hy).eq_infinity (s := .positive) rfl, (stands hx).add_infinity .positive hneg, hinfinity,
        nearestUnits_of_beyond_le (by omega)]
  · obtain rfl := natUnits_inj hx hinf
    rw [(stands hx).eq_infinity (s := .positive) rfl, (stands hy).infinity_add .positive hneg, hinfinity,
      nearestUnits_of_beyond_le (by omega)]

theorem units_eq {p : ℕ} (hx : units? x = some (p : ℤ)) : min (rounded p) beyond = p := by
  have heq := (stands hx).nearestUnits_eq
  rw [nearestUnits_natCast] at heq
  exact Int.ofNat.inj heq

theorem units_mono {p q : ℕ} (h : p ≤ q) : min (rounded p) beyond ≤ min (rounded q) beyond :=
  min_le_min_right beyond (rounded_mono h)

theorem Amount.add (hx : Amount x) (hy : Amount y) : Amount (x + y) := by
  obtain ⟨p, hp⟩ := hx
  obtain ⟨q, hq⟩ := hy
  exact ⟨_, units?_add_nat hp hq⟩

theorem units?_add_zero (hx : Amount x) (hz : units? z = some 0) : units? (x + z) = units? x := by
  obtain ⟨p, hp⟩ := hx
  rw [units?_add_nat (q := 0) hp hz, Nat.add_zero, units_eq hp, hp]

/-- Adding up fewer amounts, from a start that is no greater, leads no further. -/
theorem foldl_sublist {xs ys : List Float32} (hsub : xs.Sublist ys) (hys : ∀ y ∈ ys, Amount y)
    {p q : ℕ} (hx : units? x = some (p : ℤ)) (hy : units? y = some (q : ℤ)) (hle : p ≤ q) :
    ∃ p' q' : ℕ, units? (xs.foldl (· + ·) x) = some (p' : ℤ) ∧ units? (ys.foldl (· + ·) y) = some (q' : ℤ) ∧
      p' ≤ q' := by
  induction hsub generalizing x y p q with
  | slnil => exact ⟨p, q, hx, hy, hle⟩
  | @cons xs ys z hsub ih =>
    obtain ⟨⟨r, hz⟩, hrest⟩ := List.forall_mem_cons.mp hys
    -- What is left out on one side takes the other one further, even when it is rounded.
    refine ih hrest hx (units?_add_nat hy hz) ?_
    calc
      p ≤ q := hle
      _ = min (rounded q) beyond := (units_eq hy).symm
      _ ≤ min (rounded (q + r)) beyond := units_mono (Nat.le_add_right q r)
  | @cons_cons xs ys z hsub ih =>
    obtain ⟨⟨r, hz⟩, hrest⟩ := List.forall_mem_cons.mp hys
    exact ih hrest (units?_add_nat hx hz) (units?_add_nat hy hz) (units_mono (Nat.add_le_add_right hle r))

theorem total_sublist {xs ys : List Float32} (hsub : xs.Sublist ys) (hys : ∀ y ∈ ys, Amount y) :
    ∃ p q : ℕ, units? (Scalar.total xs) = some (p : ℤ) ∧ units? (Scalar.total ys) = some (q : ℤ) ∧ p ≤ q :=
  have hstart : units? (-0) = some ((0 : ℕ) : ℤ) := rfl
  foldl_sublist hsub hys hstart hstart le_rfl

theorem amount_total {xs : List Float32} (hxs : ∀ x ∈ xs, Amount x) : Amount (Scalar.total xs) := by
  obtain ⟨p, -, hp, -⟩ := total_sublist (.refl xs) hxs
  exact ⟨p, hp⟩

theorem length_total_of_sublist {xs ys : List Float32} (hsub : xs.Sublist ys) (hys : ∀ y ∈ ys, Amount y)
    (htotal : Length (Scalar.total ys)) : Length (Scalar.total xs) := by
  obtain ⟨p, q, hp, hq, hle⟩ := total_sublist hsub hys
  obtain ⟨q', hq', hless⟩ := htotal
  obtain rfl : q = q' := natUnits_inj hq hq'
  exact ⟨p, hp, hle.trans_lt hless⟩

/-- A difference of lengths is finite, and one of a length and infinity is infinite. -/
theorem units?_sub_nat {p q : ℕ} (hx : units? x = some (p : ℤ)) (hy : units? y = some (q : ℤ))
    (hp : p < beyond) (hq : q < beyond) : units? (x - y) = some (nearestUnits (p - q)) := by
  rw [units?_sub, sub_unpacked, sub_eq_add_neg]
  exact (stands hx).add (stands hy).neg (by omega) (by omega)

theorem Length.sub_infinite (hx : Length x) (hy : Infinite y) : MinusInfinite (x - y) := by
  obtain ⟨p, hp, hless⟩ := hx
  rw [MinusInfinite, units?_sub, sub_unpacked, (stands hy).eq_infinity (s := .positive) rfl]
  have hadd := (stands hp).add_infinity .negative (by change (p : ℤ) ≠ beyond; omega)
  exact (congrArg (fun u => unpackedUnits? (repack u)) hadd).trans (units_infinity .negative)

theorem Length.sub (hx : Length x) (hy : Length y) : Above (x - y) := by
  obtain ⟨p, hp, hpless⟩ := hx
  obtain ⟨q, hq, hqless⟩ := hy
  have hbeyond := beyond_pos
  have hlow : nearestUnits (-q) ≤ nearestUnits (p - q) := nearestUnits_mono (by omega)
  rw [(stands hq).neg.nearestUnits_eq] at hlow
  exact ⟨_, units?_sub_nat hp hq hpless hqless, by omega⟩

theorem Length.sub_number (hx : Length x) (hy : Amount y) : ∃ p, units? (x - y) = some p := by
  rcases hy.length_or_infinite with hfinite | hinf
  · exact (hx.sub hfinite).imp fun _ hp => hp.1
  · exact ⟨_, hx.sub_infinite hinf⟩

/-- What is left of a length is a length again if it is not below zero. -/
theorem Length.sub_length {p : ℤ} (hx : Length x) (hy : Amount y) (hp : units? (x - y) = some p)
    (hle : 0 ≤ p) : Length (x - y) := by
  have hbeyond := beyond_pos
  rcases hy.length_or_infinite with ⟨q, hq, hqless⟩ | hinf
  · obtain ⟨p', hp', hless⟩ := hx
    have hup : nearestUnits (p' - q) ≤ nearestUnits p' := nearestUnits_mono (by omega)
    rw [(stands hp').nearestUnits_eq] at hup
    have heq := Option.some.inj (hp.symm.trans (units?_sub_nat hp' hq hless hqless))
    obtain ⟨k, rfl⟩ := Int.eq_ofNat_of_zero_le hle
    exact ⟨k, hp, by omega⟩
  · have heq := Option.some.inj (hp.symm.trans (hx.sub_infinite hinf))
    omega

theorem Length.sub_of_not_le (hz : units? z = some 0) (hx : Length x) (hy : Amount y) (h : ¬ x - y ≤ z) :
    Length (x - y) := by
  obtain ⟨p, hp⟩ := hx.sub_number hy
  refine hx.sub_length hy hp (le_of_not_ge fun hneg => h ?_)
  exact le_iff.mpr ⟨_, _, hp, hz, hneg⟩

theorem Length.sub_of_zero (hx : Length x) (hy : units? y = some 0) : units? (x - y) = units? x := by
  obtain ⟨p, hp, hless⟩ := hx
  rw [units?_sub_nat (q := 0) hp hy hless beyond_pos, Nat.cast_zero, sub_zero, (stands hp).nearestUnits_eq, hp]

theorem Length.sub_not_infinite (hx : Length x) (hy : Amount y) : ¬ Infinite (x - y) := fun hinf =>
  hinf.not_length (hx.sub_length hy hinf (Int.natCast_nonneg beyond))

theorem length_zero (hz : units? z = some 0) : Length z := ⟨0, hz, beyond_pos⟩

theorem length_positive (hx : ¬ Infinite x) : Length (Scalar.positive x) := by
  rw [Scalar.positive]
  split
  · next hpos =>
    have hamount := ((positive_iff (z := Scalar.toZero.zero) rfl).mp hpos).amount
    exact hamount.length_or_infinite.resolve_right hx
  · exact length_zero rfl

/-- What a property is brought to when it is set is a length. -/
theorem length_sanitize (x : Float32) : Length (Scalar.sanitize x) := by
  rw [Scalar.sanitize]
  split
  · next hfinite =>
    refine length_positive fun hinf => ?_
    obtain ⟨p, hp, -, hless⟩ := isFinite_iff.mp hfinite
    have heq := Option.some.inj (hp.symm.trans hinf)
    omega
  · exact length_zero rfl

theorem Above.add (hx : Above x) (hy : Amount y) : Above (x + y) := by
  obtain ⟨p, hp, hlow⟩ := hx
  rcases le_or_gt 0 p with hnonneg | hneg
  · obtain ⟨k, rfl⟩ := Int.eq_ofNat_of_zero_le hnonneg
    exact (Amount.add ⟨k, hp⟩ hy).above
  · rcases hy.length_or_infinite with ⟨q, hq, hless⟩ | hinf
    · have hup : nearestUnits p ≤ nearestUnits (p + q) := nearestUnits_mono (by omega)
      rw [(stands hp).nearestUnits_eq] at hup
      refine ⟨nearestUnits (p + q), ?_, by omega⟩
      rw [units?_add]
      exact (stands hp).add (stands hq) (by omega) (by omega)
    · refine Amount.above (Infinite.amount ?_)
      rw [Infinite, units?_add, (stands hinf).eq_infinity (s := .positive) rfl,
        (stands hp).add_infinity .positive (by change p ≠ -(beyond : ℤ); omega)]
      exact units_infinity .positive

theorem MinusInfinite.add_length (hx : MinusInfinite x) (hy : Length y) : MinusInfinite (x + y) := by
  obtain ⟨q, hq, hless⟩ := hy
  rw [MinusInfinite, units?_add, (stands hx).eq_infinity (s := .negative) rfl,
    (stands hq).infinity_add .negative (by change (q : ℤ) ≠ beyond; omega)]
  exact units_infinity .negative

theorem MinusInfinite.add_infinite (hx : MinusInfinite x) (hy : Infinite y) : (x + y).isNaN = true := by
  rw [isNaN_iff, units?_add, (stands hx).eq_infinity (s := .negative) rfl,
    (stands hy).eq_infinity (s := .positive) rfl]
  exact units_notANumber

theorem unpack_of_isNaN (hx : x.isNaN = true) : x.toModel.unpack = .notANumber := by
  rw [isNaN_iff, units?] at hx
  cases hu : x.toModel.unpack with
  | notANumber => rfl
  | _ =>
    rw [hu] at hx
    cases hx

theorem isNaN_sub (hy : y.isNaN = true) (x : Float32) : (x - y).isNaN = true := by
  rw [isNaN_iff, units?_sub, unpack_of_isNaN hy]
  cases x.toModel.unpack <;> exact units_notANumber

theorem mul_amount {p q : ℕ} (hx : units? x = some (p : ℤ)) (hy : units? y = some (q : ℤ))
    (h : ¬ (p = 0 ∧ q = beyond ∨ p = beyond ∧ q = 0)) :
    ∃ r : ℕ, units? (x * y) = some (r : ℤ) ∧ (p = 0 ∨ q = 0 → r = 0) := by
  rw [units?_mul]
  exact ((stands hx).mul_nonneg (stands hy)).resolve_left fun hnan => h hnan.1

theorem Amount.mul (hx : Amount x) (hy : Amount y) : (x * y).isNaN = true ∨ Amount (x * y) := by
  obtain ⟨p, hp⟩ := hx
  obtain ⟨q, hq⟩ := hy
  rw [isNaN_iff, Amount, units?_mul]
  rcases (stands hp).mul_nonneg (stands hq) with ⟨-, hnan⟩ | ⟨r, hr, -⟩
  · rw [hnan]
    exact .inl units_notANumber
  · exact .inr ⟨r, hr⟩

theorem Length.mul (hx : Length x) (hy : Length y) : Amount (x * y) := by
  obtain ⟨p, hp, hpless⟩ := hx
  obtain ⟨q, hq, hqless⟩ := hy
  obtain ⟨r, hr, -⟩ := mul_amount hp hq (by omega)
  exact ⟨r, hr⟩

theorem Length.pos_of_mul_pos (hx : Length x) (hy : Length y) (hpos : Positive (x * y)) : Positive y := by
  obtain ⟨p, hp, hpless⟩ := hx
  obtain ⟨q, hq, hqless⟩ := hy
  obtain ⟨r, hr, hzero⟩ := mul_amount hp hq (by omega)
  obtain ⟨r', hr', hless⟩ := hpos
  obtain rfl : r = r' := natUnits_inj hr hr'
  exact ⟨q, hq, by omega⟩

theorem Positive.mul (hx : Positive x) (hy : Positive y) : Amount (x * y) := by
  obtain ⟨p, hp, hpless⟩ := hx
  obtain ⟨q, hq, hqless⟩ := hy
  obtain ⟨r, hr, -⟩ := mul_amount hp hq (by omega)
  exact ⟨r, hr⟩

theorem Positive.mul_amount (hx : Positive x) (hfinite : Length x) (hy : Amount y) : Amount (x * y) := by
  obtain ⟨p, hp, hpless⟩ := hx
  obtain ⟨p', hp', hless⟩ := hfinite
  obtain rfl : p = p' := natUnits_inj hp hp'
  obtain ⟨q, hq⟩ := hy
  obtain ⟨r, hr, -⟩ := Single.mul_amount hp hq (by omega)
  exact ⟨r, hr⟩

theorem div_amount {p q : ℕ} (hx : units? x = some (p : ℤ)) (hy : units? y = some (q : ℤ)) (hq : 0 < q)
    (h : ¬ (p = beyond ∧ q = beyond)) :
    ∃ r : ℕ, units? (x / y) = some (r : ℤ) ∧ (q = beyond → r = 0) := by
  rw [units?_div]
  exact ((stands hx).div_nonneg (stands hy) hq).resolve_left fun hnan => h hnan.1

theorem Length.div (hx : Length x) (hy : Positive y) : Amount (x / y) := by
  obtain ⟨p, hp, hpless⟩ := hx
  obtain ⟨q, hq, hqpos⟩ := hy
  obtain ⟨r, hr, -⟩ := div_amount hp hq hqpos (by omega)
  exact ⟨r, hr⟩

theorem Amount.div (hx : Amount x) (hy : Positive y) (hfinite : Length y) : Amount (x / y) := by
  obtain ⟨p, hp⟩ := hx
  obtain ⟨q, hq, hqpos⟩ := hy
  obtain ⟨q', hq', hless⟩ := hfinite
  obtain rfl : q = q' := natUnits_inj hq hq'
  obtain ⟨r, hr, -⟩ := div_amount hp hq hqpos (by omega)
  exact ⟨r, hr⟩

theorem Length.div_infinite (hx : Length x) (hy : Infinite y) : units? (x / y) = some 0 := by
  obtain ⟨p, hp, hless⟩ := hx
  obtain ⟨r, hr, hzero⟩ := div_amount hp hy beyond_pos (by omega)
  rw [hr, hzero rfl]
  rfl

theorem Infinite.div_infinite (hx : Infinite x) (hy : Infinite y) : (x / y).isNaN = true := by
  rw [isNaN_iff, units?_div, (stands hx).eq_infinity (s := .positive) rfl,
    (stands hy).eq_infinity (s := .positive) rfl]
  exact units_notANumber

theorem positive_natCast {n : ℕ} (hn : 0 < n) : Positive (n : Float32) := by
  obtain ⟨r, hpos, hr⟩ := units?_ofNat_pos hn
  exact ⟨r, hr, hpos⟩

theorem amount_natCast (n : ℕ) : Amount (n : Float32) := by
  rcases n.eq_zero_or_pos with rfl | hn
  · exact ⟨0, by decide +kernel⟩
  · exact (positive_natCast hn).amount

theorem two_unpacked : ((2 : ℕ) : Float32).toModel.unpack = two := by
  have hbits : ((2 : ℕ) : Float32) = Float32.ofBits 0x40000000 := by decide +kernel
  rw [hbits]
  rfl

theorem Above.half (hx : Above x) : Above (x / ((2 : ℕ) : Float32)) := by
  obtain ⟨p, hp, hlow⟩ := hx
  obtain ⟨r, hr, habove, -⟩ := (stands hp).div_two
  rw [Above, units?_div, two_unpacked]
  exact ⟨r, hr, habove hlow⟩

theorem MinusInfinite.half (hx : MinusInfinite x) : MinusInfinite (x / ((2 : ℕ) : Float32)) := by
  obtain ⟨r, hr, -, hlow⟩ := (stands hx).div_two
  rw [MinusInfinite, units?_div, two_unpacked, hr, hlow rfl]

end ResponsiveLayout.Single
