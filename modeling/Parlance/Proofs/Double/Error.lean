import Parlance.Proofs.Double.Decimal

/-!
How far rounding goes astray. Main statement: `Rounds.abs_sub_le`, that a number between zero and one is no
farther from its double than half the distance of the doubles just below one.
-/

namespace Parlance.Double

variable {x : Float} {v : ℚ} {n m gap : Nat}

/-- Up to a magnitude a number is no farther from the nearest double than half the largest gap. -/
theorem Nearest.abs_sub_le (h : Nearest v n) (hnonneg : 0 ≤ v) (hle : v ≤ units m)
    (hgap : ∀ k < m, units (k + 1) ≤ units k + gap) : 2 * |units n - v| ≤ gap := by
  have hm : n ≤ m := h.mono (nearest_units m) hle
  have hnext : ∀ k < m, (units (k + 1) : ℚ) ≤ units k + gap := by
    intro k hk
    exact_mod_cast hgap k hk
  have hgap : (0 : ℚ) ≤ gap := Nat.cast_nonneg gap
  rcases le_total v (units n) with hv | hv
  · rw [abs_of_nonneg (sub_nonneg.2 hv)]
    rcases n with _ | n
    · have hzero : ((units 0 : Nat) : ℚ) = 0 := by rw [show units 0 = 0 by decide, Nat.cast_zero]
      linarith
    · linarith [h.below_le n rfl, hnext n (by omega)]
  · rw [abs_of_nonpos (sub_nonpos.2 hv)]
    rcases hm.lt_or_eq with hlt | rfl
    · linarith [h.le_above, hnext n hlt]
    · linarith

/-- Neighbours are no farther apart than those of the last binade that is reached. -/
theorem units_succ_le {j : Nat} (hn : n < (j + 2) * 2 ^ 52) : units (n + 1) ≤ units n + 2 ^ j := by
  obtain ⟨k, r, rfl, hr, hk⟩ := exists_mantissa n
  have hpow : 2 ^ k ≤ 2 ^ j := Nat.pow_le_pow_right two_pos (by omega)
  have hnext := units_mantissa (k := k) (r := r + 1) (by omega) (by omega)
  rw [← Nat.add_assoc] at hnext
  rw [units_mantissa hr.le hk, hnext, Nat.succ_mul]
  exact Nat.add_le_add_left hpow _

theorem units_one : units (1023 * 2 ^ 52) = 2 ^ 1074 := by
  rw [show 1023 * 2 ^ 52 = 1022 * 2 ^ 52 + 2 ^ 52 by decide,
    units_mantissa (by decide) (.inr (Nat.le_refl _)), ← pow_add]

/-- A number between zero and one is no farther from its double than half the distance of the doubles just
below one. -/
theorem Rounds.abs_sub_le (h : Rounds v x) (hnonneg : 0 ≤ v) (hle : v ≤ 1) :
    |value x - v| ≤ 2 ^ (-54 : Int) := by
  obtain ⟨n, hn, hplace⟩ := h.exists_nearest
  have hone : v / least ≤ units (1023 * 2 ^ 52) := by
    rw [units_one, div_least, Nat.cast_pow, Nat.cast_ofNat]
    exact mul_le_of_le_one_left (pow_nonneg zero_le_two _) hle
  have hfinite : n < 2047 * 2 ^ 52 := by
    have hmono := hn.mono (nearest_units (1023 * 2 ^ 52)) hone
    omega
  rw [min_eq_left hfinite.le, place_eq_magnitude h.place_nonneg] at hplace
  have hmagnitude : magnitude x = n := by exact_mod_cast hplace
  have hnear := hn.abs_sub_le (div_nonneg hnonneg least_pos.le) hone
    fun k hk => units_succ_le (j := 1021) hk
  have hvalue : value x - v = (units n - v / least) * least := by
    rw [value, hmagnitude, sub_mul, div_mul_cancel₀ _ least_pos.ne']
  have hscale : ((2 ^ 1021 : Nat) : ℚ) / 2 * least = 2 ^ (-54 : Int) := by
    have htwo : ((2 ^ 1021 : Nat) : ℚ) = 2 ^ (1021 : Int) := by
      rw [Nat.cast_pow, Nat.cast_ofNat, zpow_ofNat]
    rw [least, htwo, div_eq_mul_inv, ← zpow_sub_one₀ two_ne_zero, ← zpow_add₀ two_ne_zero]
    rfl
  rw [hvalue, abs_mul, abs_of_pos least_pos, ← hscale]
  apply mul_le_mul_of_nonneg_right _ least_pos.le
  rw [le_div_iff₀ two_pos, mul_comm]
  exact hnear

end Parlance.Double
