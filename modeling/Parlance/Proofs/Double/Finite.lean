import Parlance.Proofs.Double.Arithmetic

/-!
Finite doubles. Main statement: `isFinite_ofInt`, that an integer of 64 bits, with or without a sign,
becomes a finite double.
-/

namespace Parlance.Double

open Float.Model UnpackedFloat

variable {x : Float}

theorem isFinite_iff (x : Float) : x.isFinite ↔ magnitude x < 2047 * 2 ^ 52 := by
  change x.toModel.unpack.isFinite ↔ _
  have h := means_unpack x
  generalize x.toModel.unpack = f at h
  cases h with
  | infinity h | notANumber h => simp [UnpackedFloat.isFinite]; omega
  | zero h | subnormal _ h => simp [UnpackedFloat.isFinite]; omega
  | normal m e hm _ he h => simp [UnpackedFloat.isFinite]; omega

theorem Amount.isFinite (h : Amount x) : x.isFinite :=
  (isFinite_iff x).2 h.finite

/-- Any whole number is turned into the nearest double. -/
theorem rounds_floatOfNat (n : Nat) : Rounds n (Float.ofNat n) := by
  by_cases hn : n < 2 ^ 53
  · exact rounds_toFloat hn
  · have hpos : n ≠ 0 := by omega
    have hmul : Float.ofNat n = .ofModel (pack (UnpackedFloat.mul Format.binary64
        (.finite .positive (n <<< 53) (-53) (by rw [Nat.shiftLeft_eq]; positivity))
        (.finite .positive 1 0 (by decide)))) := by
      change Float.ofScientific n false 0 = _
      rw [Float.ofScientific, dif_neg fun h => hn h.1]
      change Float.ofModel (pack (UnpackedFloat.ofScientific _ n 0)) = _
      have hrange : (0 : Int) ≤ 2 ^ Format.binary64.exponentBits := by decide
      rw [UnpackedFloat.ofScientific, dif_neg hpos, if_neg (by decide), if_neg (by omega),
        if_pos le_rfl]
      rfl
    have hbits : 2 ^ 52 ≤ n <<< 53 * 1 ∨ (-53 : Int) + 0 ≤ -1074 := by
      rw [Nat.shiftLeft_eq]
      omega
    obtain ⟨k, hk, hpacks⟩ :=
      packs_roundWithAccuracy (.positive * .positive) (tells_exact (n <<< 53 * 1)) hbits
    have hvalue : ((n <<< 53 * 1 : Nat) : ℚ) * 2 ^ ((-53 : Int) + 0 + 1074) = n / least := by
      rw [Nat.shiftLeft_eq, least, zpow_neg, div_inv_eq_mul, add_zero, zpow_add₀ two_ne_zero, zpow_neg]
      generalize (2 : ℚ) ^ (1074 : Int) = c
      push_cast
      field_simp
    rw [hvalue] at hk
    rw [hmul]
    exact .of_packs hpacks hk (.inl rfl)

/-- A double with the sign turned has the other sign and the same magnitude. -/
theorem packs_neg (h : x.isNaN = false) : Packs x.toModel.unpack.neg (-sign x) (magnitude x) := by
  have hle : ¬2047 * 2 ^ 52 < magnitude x := by
    rw [← isNaN_iff, h]
    exact Bool.false_ne_true
  have hmeans := means_unpack x
  generalize x.toModel.unpack = f at hmeans
  cases hmeans with
  | notANumber h => exact absurd h hle
  | infinity h =>
    rw [h]
    cases sign x <;> constructor <;> rfl
  | zero h =>
    rw [h]
    exact packs_zero _
  | subnormal hpos hsmall =>
    have hpacks := packs_finite (-sign x) (k := 0) (by omega) (.inl rfl) hpos
    exact ⟨hpacks.sign, hpacks.magnitude.trans (by omega)⟩
  | normal m e hm he he' h hpos =>
    obtain ⟨k, rfl⟩ := Nat.exists_eq_add_of_lt he
    have hpacks := packs_finite (-sign x) (k := k) (m := 2 ^ 52 + m) (by omega) (.inr (by omega)) hpos
    have hexponent : ((0 + k + 1 : Nat) : Int) - 1075 = (k : Int) - 1074 := by omega
    rw [hexponent]
    exact ⟨hpacks.sign, hpacks.magnitude.trans (by omega)⟩

theorem isNaN_of_isFinite (h : x.isFinite) : x.isNaN = false :=
  isNaN_of_magnitude_le ((isFinite_iff x).1 h).le

theorem isFinite_neg (x : Float) : x.neg.isFinite = x.isFinite := by
  rw [Bool.eq_iff_iff]
  by_cases h : x.isNaN
  · have hmeans := means_unpack x
    have hnan : 2047 * 2 ^ 52 < magnitude x := (isNaN_iff x).1 h
    have hneg : ¬x.neg.isFinite := by
      change ¬(Float.ofModel (pack x.toModel.unpack.neg)).isFinite
      generalize x.toModel.unpack = f at hmeans
      cases hmeans with
      | notANumber => decide
      | infinity | zero | subnormal | normal => omega
    refine iff_of_false hneg ?_
    rw [isFinite_iff]
    omega
  · have hmagnitude : magnitude x.neg = magnitude x := (packs_neg (by simpa using h)).magnitude
    rw [isFinite_iff, isFinite_iff, hmagnitude]

/-- A number is not the same with the sign turned, zero included. -/
theorem neg_ne_self (h : x.isNaN = false) : x.neg ≠ x := by
  intro heq
  have hsign : sign x.neg = -sign x := (packs_neg h).sign
  rw [heq] at hsign
  cases hs : sign x <;> rw [hs] at hsign <;> cases hsign

def twoPow64 : Float :=
  Float.ofBits 0x43F0000000000000

theorem amount_twoPow64 : Amount twoPow64 :=
  ⟨by decide, by decide⟩

theorem value_twoPow64 : value twoPow64 = 2 ^ 64 := by
  rw [value_eq (k := 1086) (r := 2 ^ 52) (by decide) (.inr le_rfl) (by decide)]
  norm_num

theorem isFinite_ofNat {n : Nat} (h : n ≤ 2 ^ 64) : (Float.ofNat n).isFinite := by
  refine ((rounds_floatOfNat n).amount amount_twoPow64 ?_).isFinite
  rw [value_twoPow64]
  exact_mod_cast h

/-- An integer of 64 bits becomes a finite double. -/
theorem isFinite_ofInt {n : Int} (h : n.natAbs ≤ 2 ^ 64) : (Float.ofInt n).isFinite := by
  cases n with
  | ofNat n => exact isFinite_ofNat h
  | negSucc n =>
    change (Float.ofNat (n + 1)).neg.isFinite
    rw [isFinite_neg]
    exact isFinite_ofNat h

end Parlance.Double
