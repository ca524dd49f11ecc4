import ResponsiveLayout.Proofs.Single.Units

/-! Numbers packed into single precision and read back. A canonical number comes back as it is, or as infinity
if its exponent is too great; whatever is packed keeps its sign, and only what is not a number becomes none. -/
namespace ResponsiveLayout.Single

open Float.Model (Format UnpackedFloat)
open Float.Model.UnpackedFloat (Sign packComponents)

/-- A number as it is read back after packing. -/
def repack (u : UnpackedFloat) : UnpackedFloat :=
  UnpackedFloat.unpack Format.binary32 (UnpackedFloat.pack Format.binary32 u)

theorem unpack_components (s : Sign) (e : BitVec 8) (m : BitVec 23) :
    UnpackedFloat.unpack Format.binary32 (packComponents Format.binary32 s e m) =
      if e = -1#8 then if m = 0#23 then .infinity s else .notANumber
      else if e = 0#8 then
        if h : m = 0#23 then .zero s
        else .finite s m.toNat (-149) (Nat.pos_of_ne_zero fun h' => h (BitVec.eq_of_toNat_eq h'))
      else .finite s (2 ^ 23 + m.toNat) (e.toNat - 150) (by omega) := by
  have hnormal : (1#1 ++ m).toNat = 2 ^ 23 + m.toNat := by
    rw [BitVec.toNat_append, ← Nat.shiftLeft_add_eq_or_of_lt m.isLt]
    rfl
  unfold UnpackedFloat.unpack
  simp only [UnpackedFloat.unpackMantissa_packComponents, UnpackedFloat.unpackExponent_packComponents,
    UnpackedFloat.unpackSign_packComponents, Sign.ofBitVec_toBitVec, hnormal]
  split
  · rfl
  · split
    · next he =>
      subst he
      rfl
    · rfl

theorem repack_notANumber : repack .notANumber = .notANumber := by
  rw [repack, UnpackedFloat.pack, UnpackedFloat.unpack_packedNaN]

theorem repack_infinity (s : Sign) : repack (.infinity s) = .infinity s := by
  rw [repack, UnpackedFloat.pack, UnpackedFloat.packedInfinity, unpack_components]
  rfl

theorem repack_zero (s : Sign) : repack (.zero s) = .zero s := by
  rw [repack, UnpackedFloat.pack, UnpackedFloat.unpack_packedZero]

theorem units_notANumber : unpackedUnits? (repack .notANumber) = none :=
  congrArg unpackedUnits? repack_notANumber

theorem units_infinity (s : Sign) : unpackedUnits? (repack (.infinity s)) = some (s.apply beyond) :=
  congrArg unpackedUnits? (repack_infinity s)

theorem units_zero (s : Sign) : unpackedUnits? (repack (.zero s)) = some 0 :=
  congrArg unpackedUnits? (repack_zero s)

theorem pack_finite (s : Sign) (m : ℕ) (e : ℤ) (hm : 0 < m) :
    UnpackedFloat.pack Format.binary32 (.finite s m e hm) =
      if 256 ≤ (e + 127 + 23).toNat + 1 then UnpackedFloat.packedInfinity Format.binary32 s
      else if m.log2 + 1 = 24 then
        packComponents Format.binary32 s (BitVec.ofNat 8 (e + 127 + 23).toNat) (BitVec.ofNat 23 m)
      else packComponents Format.binary32 s 0#8 (BitVec.ofNat 23 m) := rfl

theorem exponent_ne_full {b : ℕ} (hb : b < 255) : BitVec.ofNat 8 b ≠ -1#8 := by
  intro heq
  have hnat := congrArg BitVec.toNat heq
  rw [BitVec.toNat_ofNat] at hnat
  change _ % 256 = 255 at hnat
  omega

/-- What a packed number is read back as, whatever its form. -/
theorem repack_cases (s : Sign) (m : ℕ) (e : ℤ) (hm : 0 < m) :
    repack (.finite s m e hm) = .infinity s ∧ 104 < e ∨ repack (.finite s m e hm) = .zero s ∨
      ∃ m' e' hm', repack (.finite s m e hm) = .finite s m' e' hm' := by
  rw [repack, pack_finite]
  split
  · exact .inl ⟨repack_infinity s, by omega⟩
  · next hhigh =>
    have hexponent := exponent_ne_full (b := (e + 127 + 23).toNat) (by omega)
    split <;> rw [unpack_components]
    · rw [if_neg hexponent]
      split
      · split
        · exact .inr (.inl rfl)
        · next hm' => exact .inr (.inr ⟨_, _, Nat.pos_of_ne_zero fun h => hm' (BitVec.eq_of_toNat_eq h), rfl⟩)
      · exact .inr (.inr ⟨_, _, Nat.add_pos_left (Nat.two_pow_pos 23) _, rfl⟩)
    · rw [if_neg (by decide), if_pos rfl]
      split
      · exact .inr (.inl rfl)
      · next hm' => exact .inr (.inr ⟨_, _, Nat.pos_of_ne_zero fun h => hm' (BitVec.eq_of_toNat_eq h), rfl⟩)

/-- Packing keeps the sign of a number, and leads to infinity only from exponents that are too great. -/
theorem repack_finite (s : Sign) (m : ℕ) (e : ℤ) (hm : 0 < m) :
    ∃ r : ℕ, unpackedUnits? (repack (.finite s m e hm)) = some (s.apply r) ∧ (e ≤ 104 → r < beyond) := by
  have hformed : Formed (repack (.finite s m e hm)) := formed_unpack _
  rcases repack_cases s m e hm with ⟨hinfinity, he⟩ | hzero | ⟨m', e', hm', hfinite⟩
  · exact ⟨beyond, congrArg unpackedUnits? hinfinity, fun hlow => absurd hlow (by omega)⟩
  · rw [hzero]
    exact ⟨0, by cases s <;> rfl, fun _ => beyond_pos⟩
  · rw [hfinite] at hformed ⊢
    exact ⟨_, rfl, fun _ => Canonical.unitsOf_lt_beyond hformed⟩

theorem finite_congr (s : Sign) {m m' : ℕ} {e e' : ℤ} (hm : 0 < m) (hm' : 0 < m') (heq : m = m')
    (heq' : e = e') : UnpackedFloat.finite s m e hm = .finite s m' e' hm' := by
  subst heq heq'
  rfl

theorem repack_canonical (s : Sign) {m : ℕ} {e : ℤ} (hm : 0 < m) (h : Canonical m e) :
    repack (.finite s m e hm) = .finite s m e hm := by
  have hlt := h.lt
  have hlow := h.low
  have hhigh := h.high
  rw [repack, pack_finite, if_neg (by omega)]
  split
  · next hfull =>
    have hle : 2 ^ 23 ≤ m := (Nat.le_log2 hm.ne').mp (by omega)
    have hexponent : (BitVec.ofNat 8 (e + 127 + 23).toNat).toNat = (e + 127 + 23).toNat :=
      Nat.mod_eq_of_lt (by omega)
    have hmantissa : (BitVec.ofNat 23 m).toNat = m - 2 ^ 23 := by
      rw [BitVec.toNat_ofNat]
      omega
    have hnormal : BitVec.ofNat 8 (e + 127 + 23).toNat ≠ 0#8 := by
      intro heq
      have hnat : (e + 127 + 23).toNat = 0 := hexponent ▸ congrArg BitVec.toNat heq
      omega
    rw [unpack_components, if_neg (exponent_ne_full (by omega)), if_neg hnormal]
    exact finite_congr s _ hm (by omega) (by omega)
  · next hfull =>
    have hless : m < 2 ^ 23 := (Nat.log2_lt hm.ne').mp (by
      have h24 := (Nat.log2_lt hm.ne').mpr hlt
      omega)
    have he : e = -149 := h.full.resolve_right (by omega)
    subst he
    have hmantissa : (BitVec.ofNat 23 m).toNat = m := Nat.mod_eq_of_lt hless
    have hne : BitVec.ofNat 23 m ≠ 0#23 := by
      intro heq
      have hnat := congrArg BitVec.toNat heq
      rw [hmantissa] at hnat
      exact absurd hnat hm.ne'
    rw [unpack_components, if_neg (by decide), if_pos rfl, dif_neg hne]
    exact finite_congr s _ hm hmantissa rfl

/-- A number whose exponent is too great is read back as infinity. -/
theorem repack_too_great (s : Sign) {m : ℕ} {e : ℤ} (hm : 0 < m) (he : 104 < e) :
    repack (.finite s m e hm) = .infinity s := by
  rw [repack, pack_finite, if_pos (by omega)]
  exact repack_infinity s

/-- A packed number stands where it stood, or at infinity if that is less. -/
theorem units_repack (s : Sign) {m : ℕ} {e : ℤ} (hm : 0 < m) (hlt : m < 2 ^ 24) (hlow : -149 ≤ e)
    (hfull : e = -149 ∨ 2 ^ 23 ≤ m) :
    unpackedUnits? (repack (.finite s m e hm)) = some (s.apply (min (unitsOf m e) beyond : ℕ)) := by
  by_cases hhigh : e ≤ 104
  · have hcanonical : Canonical m e := ⟨hlt, hlow, hhigh, hfull⟩
    rw [repack_canonical s hm hcanonical, min_eq_left hcanonical.unitsOf_lt_beyond.le, unpackedUnits?]
  · have hbeyond : beyond ≤ unitsOf m e := by
      calc
        beyond = 2 ^ 23 * 2 ^ 254 := beyond_eq
        _ ≤ m * 2 ^ (e + 149).toNat :=
          Nat.mul_le_mul (by omega) (Nat.pow_le_pow_right (by decide) (by omega))
    rw [repack_too_great s hm (by omega), min_eq_right hbeyond, unpackedUnits?]

end ResponsiveLayout.Single
