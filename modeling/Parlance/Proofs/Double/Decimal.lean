import Parlance.Decimal.Numeral
import Parlance.Proofs.Double.Finite

/-!
Decimals as doubles. Main statements: `rounds_scaled`, that digits with a point among them are turned into
the nearest double; and `isFinite_scaled`, below which number that is no infinity.
-/

namespace Parlance.Double

open Float.Model UnpackedFloat

variable {x : Float} {v : ℚ} {n k m e : Nat}

theorem div_least (v : ℚ) : v / least = v * 2 ^ 1074 := by
  rw [least, zpow_neg, div_inv_eq_mul, zpow_ofNat]

/-! The largest doubles. -/

/-- The least number that is rounded to infinity. -/
def overflow : ℚ :=
  2 ^ 1024 - 2 ^ 970

/-- A number is rounded to an odd magnitude or a smaller one where it lies below the middle between that
and the next one, which is even. -/
theorem Nearest.le_iff (h : Nearest v n) (hk : Odd k) : n ≤ k ↔ 2 * v < units k + units (k + 1) := by
  constructor
  · intro hle
    rcases hle.lt_or_eq with hlt | rfl
    · have hlow : (units n : ℚ) < units k := by exact_mod_cast units_strictMono hlt
      have hhigh : (units (n + 1) : ℚ) < units (k + 1) := by
        exact_mod_cast units_strictMono (Nat.add_lt_add_right hlt 1)
      linarith [h.le_above]
    · apply h.le_above.lt_of_ne
      intro heq
      exact Nat.not_even_iff_odd.2 hk (h.even_above heq)
  · intro hlt
    by_contra hle
    obtain ⟨j, rfl⟩ : ∃ j, n = j + 1 := ⟨n - 1, by omega⟩
    have hkj : k ≤ j := by omega
    have hlow : (units k : ℚ) ≤ units j := by exact_mod_cast units_strictMono.monotone hkj
    have hhigh : (units (k + 1) : ℚ) ≤ units (j + 1) := by
      exact_mod_cast units_strictMono.monotone (Nat.add_le_add_right hkj 1)
    linarith [h.below_le j rfl]

theorem nearest_lt_infinity_iff (h : Nearest (v / least) n) : n < 2047 * 2 ^ 52 ↔ v < overflow := by
  have hmiddle : (units (2047 * 2 ^ 52 - 1) + units (2047 * 2 ^ 52 - 1 + 1) : ℚ) =
      (2 ^ 54 - 1) * 2 ^ 2045 := by
    have hsum := units_add_units_succ (k := 2045) (r := 2 ^ 53 - 1) (by decide) (by decide)
    have hlargest : 2045 * 2 ^ 52 + (2 ^ 53 - 1) = 2047 * 2 ^ 52 - 1 := by decide
    have hcast : ((2 * (2 ^ 53 - 1) + 1 : Nat) : ℚ) = 2 ^ 54 - 1 := by norm_num
    rw [← Nat.cast_add, ← hlargest, hsum, Nat.cast_mul, hcast, Nat.cast_pow, Nat.cast_ofNat]
  have hoverflow : overflow / least = (2 ^ 54 - 1) * 2 ^ 2045 / 2 := by
    have hpow : (2 : ℚ) ^ 2045 = 2 ^ 970 * 2 ^ 1074 * 2 := by rw [← pow_add, ← pow_succ]
    have hpow' : (2 : ℚ) ^ 1024 = 2 ^ 54 * 2 ^ 970 := by rw [← pow_add]
    rw [div_least, overflow, hpow, hpow', ← sub_one_mul, ← mul_assoc, ← mul_assoc,
      mul_div_cancel_right₀ _ two_ne_zero]
  have hscale : v / least < overflow / least ↔ v < overflow := div_lt_div_iff_of_pos_right least_pos
  rw [Nat.lt_iff_le_pred (by decide), h.le_iff (by decide), hmiddle, ← hscale, hoverflow,
    lt_div_iff₀ two_pos, mul_comm]

/-- The nearest double is finite for numbers that are not too large, and for no others. -/
theorem Rounds.isFinite_iff (h : Rounds v x) : x.isFinite ↔ v < overflow := by
  obtain ⟨n, hn, hplace⟩ := h.exists_nearest
  rw [place_eq_magnitude h.place_nonneg] at hplace
  rw [Double.isFinite_iff, ← nearest_lt_infinity_iff hn]
  omega

/-! Exact doubles. -/

theorem Nearest.eq_of_units (h : Nearest v n) (hv : v = units k) : n = k := by
  have hk : Nearest v k := hv ▸ nearest_units k
  exact le_antisymm (h.mono hk le_rfl) (hk.mono h le_rfl)

/-- A whole number that fits a mantissa is a double. -/
theorem exists_units (hn : n < 2 ^ 53) : ∃ k, (n : ℚ) / least = units k ∧ k < 2047 * 2 ^ 52 := by
  rcases Nat.eq_zero_or_pos n with rfl | hpos
  · exact ⟨0, by rw [Nat.cast_zero, zero_div]; rfl, by decide⟩
  · have hlog : n.log2 < 53 := (Nat.log2_lt hpos.ne').2 hn
    obtain ⟨j, hj⟩ : ∃ j, n.log2 + j = 52 := ⟨52 - n.log2, by omega⟩
    have hlow : 2 ^ 52 ≤ n * 2 ^ j := by
      rw [← hj, pow_add]
      exact Nat.mul_le_mul_right _ (Nat.log2_self_le hpos.ne')
    have hhigh : n * 2 ^ j < 2 ^ 53 := by
      rw [show 53 = n.log2 + 1 + j by omega, pow_add]
      exact Nat.mul_lt_mul_of_pos_right Nat.lt_log2_self (Nat.two_pow_pos j)
    have hsum : j + (1074 - j) = 1074 := by omega
    refine ⟨(1074 - j) * 2 ^ 52 + n * 2 ^ j, ?_, by omega⟩
    rw [units_mantissa hhigh.le (.inr hlow), mul_assoc, ← pow_add, hsum, div_least, Nat.cast_mul,
      Nat.cast_pow, Nat.cast_ofNat]

theorem Rounds.value_eq (h : Rounds n x) (hn : n < 2 ^ 53) : value x = n := by
  obtain ⟨k, hk, hlt⟩ := exists_units hn
  obtain ⟨j, hj, hplace⟩ := h.exists_nearest
  obtain rfl := hj.eq_of_units hk
  rw [min_eq_left hlt.le, place_eq_magnitude h.place_nonneg] at hplace
  have hmagnitude : magnitude x = j := by exact_mod_cast hplace
  rw [value, hmagnitude, ← hk, div_mul_cancel₀ _ least_pos.ne']

/-- What is checked of the powers of ten that are doubles. -/
structure PowerChecks (x : Float) (e : Nat) : Prop where
  place_nonneg : 0 ≤ place x
  finite : magnitude x < 2047 * 2 ^ 52
  units : units (magnitude x) = 10 ^ e * 2 ^ 1074

instance (x : Float) (e : Nat) : Decidable (PowerChecks x e) :=
  decidable_of_iff (0 ≤ place x ∧ magnitude x < 2047 * 2 ^ 52 ∧ units (magnitude x) = 10 ^ e * 2 ^ 1074)
    ⟨fun ⟨hplace, hfinite, hunits⟩ => ⟨hplace, hfinite, hunits⟩,
      fun h => ⟨h.place_nonneg, h.finite, h.units⟩⟩

theorem powerChecks : ∀ e (he : e < Float.exactlyRepresentablePowersOfTen.size),
    PowerChecks Float.exactlyRepresentablePowersOfTen[e] e := by
  decide +kernel

theorem PowerChecks.value_eq (h : PowerChecks x e) : value x = 10 ^ e := by
  rw [value, ← eq_div_iff least_pos.ne', div_least, h.units, Nat.cast_mul, Nat.cast_pow, Nat.cast_pow,
    Nat.cast_ofNat, Nat.cast_ofNat]

/-! Decimals. -/

/-- A decimal with few digits or many is turned into the nearest double. -/
theorem rounds_ofScientific (hm : 0 < m) (he : 0 < e) (hlow : e ≤ 2048 + m.log2) :
    Rounds ((m : ℚ) / 10 ^ e) (Float.ofScientific m true e) := by
  rw [Float.ofScientific]
  split
  · rename_i hsmall
    have hsize : e < Float.exactlyRepresentablePowersOfTen.size := Nat.lt_succ_of_le hsmall.2
    have hpower := powerChecks e hsize
    have hround := rounds_toUInt64 hsmall.1
    have hten : Amount Float.exactlyRepresentablePowersOfTen[e] := ⟨hpower.place_nonneg, hpower.finite⟩
    have hdiv := rounds_div (hround.amount_of_lt hsmall.1) hten (by rw [hpower.value_eq]; positivity)
    rw [hround.value_eq hsmall.1, hpower.value_eq] at hdiv
    exact hdiv
  · have hexponent : Int.negOfNat e = -(e : Int) := Int.negOfNat_eq
    have hbits : (2 : Int) ^ Format.binary64.exponentBits = 2048 := rfl
    have hdiv : UnpackedFloat.ofScientific Format.binary64 m (Int.negOfNat e) =
        UnpackedFloat.div Format.binary64 (.finite .positive m 0 hm)
          (.finite .positive (10 ^ e) 0 (Nat.pow_pos (by decide))) := by
      rw [UnpackedFloat.ofScientific, dif_neg hm.ne', hbits, hexponent, if_neg (by omega),
        if_neg (by omega), if_neg (by omega)]
      congr
      omega
    obtain ⟨k, hk, hpacks⟩ := packs_div .positive .positive 0 0 hm (Nat.pow_pos (by decide : 0 < 10))
    rw [← hdiv] at hpacks
    rw [zpow_zero, mul_one, mul_one, Nat.cast_pow] at hk
    exact .of_packs hpacks hk (.inl rfl)

theorem nearest_zero (h : 2 * v ≤ 1) : Nearest v 0 where
  le_above := by
    have hone : (units (0 + 1) : ℚ) = 1 := by exact_mod_cast (by decide : units (0 + 1) = 1)
    have hzero : (units 0 : ℚ) = 0 := by exact_mod_cast (by decide : units 0 = 0)
    linarith
  even_above _ := ⟨0, rfl⟩
  below_le _ hk := absurd hk.symm (Nat.succ_ne_zero _)
  even_below _ hk := absurd hk.symm (Nat.succ_ne_zero _)

theorem rounds_zero (h : 2 ^ 1075 * v ≤ 1) : Rounds v 0.0 := by
  refine ⟨⟨0, nearest_zero ?_, by decide⟩, by decide⟩
  rw [div_least, mul_left_comm, ← pow_succ', mul_comm]
  exact h

theorem rounds_infinity (h : overflow ≤ v) (hn : Nearest (v / least) n) : Rounds v (1.0 / 0.0) := by
  have hle : 2047 * 2 ^ 52 ≤ n := not_lt.1 fun hlt => h.not_gt ((nearest_lt_infinity_iff hn).1 hlt)
  refine ⟨⟨n, hn, ?_⟩, by decide⟩
  rw [min_eq_right hle]
  decide

/-- Digits with a point among them are turned into the nearest double. -/
theorem rounds_scaled (digits n : Nat) :
    Rounds ((digits : ℚ) / 10 ^ n) (Decimal.scaled digits (-n)) := by
  have hten : (0 : ℚ) < 10 ^ n := by positivity
  have hlength {k : Nat} (hk : 0 < k) : (Nat.toDigits 10 digits).length ≤ k ↔ digits < 10 ^ k :=
    Nat.length_toDigits_le_iff (by decide) hk
  have hlength_pos : 0 < (Nat.toDigits 10 digits).length := Nat.length_toDigits_pos
  rw [Decimal.scaled]
  split
  · rename_i hsmall
    apply rounds_zero
    rw [mul_div_assoc', div_le_one hten]
    rcases hsmall with rfl | hplaces
    · rw [Nat.cast_zero, mul_zero]
      exact hten.le
    · obtain ⟨k, rfl⟩ : ∃ k, n = 401 + k := ⟨n - 401, by omega⟩
      have hdigits : digits < 10 ^ k := (hlength (by omega)).1 (by omega)
      have hpow : 2 ^ 1075 ≤ 10 ^ 401 := by decide +kernel
      rw [pow_add]
      exact_mod_cast Nat.mul_le_mul hpow hdigits.le
  · rename_i hsmall
    push Not at hsmall
    have hpos : 0 < digits := Nat.pos_of_ne_zero hsmall.1
    have hpow : 0 < 10 ^ n := Nat.pow_pos (by decide)
    split
    · rename_i hlarge
      obtain ⟨k, hk, -⟩ := packs_div .positive .positive 0 0 hpos hpow
      rw [zpow_zero, mul_one, mul_one, Nat.cast_pow, Nat.cast_ofNat] at hk
      apply rounds_infinity _ hk
      rw [le_div_iff₀ hten]
      have hdigits : 10 ^ (400 + n) ≤ digits := not_lt.1 fun hlt => by
        have := (hlength (by omega)).2 hlt
        omega
      have hpow' : 2 ^ 1024 ≤ 10 ^ 400 := by decide +kernel
      have hoverflow : overflow ≤ 10 ^ 400 :=
        (sub_le_self _ (pow_pos two_pos _).le).trans (by exact_mod_cast hpow')
      calc overflow * 10 ^ n ≤ 10 ^ 400 * 10 ^ n := mul_le_mul_of_nonneg_right hoverflow hten.le
        _ = 10 ^ (400 + n) := (pow_add _ _ _).symm
        _ ≤ digits := by exact_mod_cast hdigits
    · split
      · rename_i hplaces
        have hlog : (Nat.toDigits 10 digits).length ≤ digits.log2 + 1 :=
          (hlength (Nat.succ_pos _)).2 (Nat.lt_log2_self.trans_le
            (Nat.pow_le_pow_left (by decide) _))
        rw [Int.natAbs_neg, Int.natAbs_natCast]
        exact rounds_ofScientific hpos (by omega) (by omega)
      · obtain rfl : n = 0 := by omega
        rw [pow_zero, div_one]
        exact rounds_floatOfNat digits

/-- Digits with a point among them make no infinity where the number is not too large. -/
theorem isFinite_scaled (digits n : Nat) :
    (Decimal.scaled digits (-n)).isFinite ↔ (digits : ℚ) / 10 ^ n < overflow :=
  (rounds_scaled digits n).isFinite_iff

end Parlance.Double
