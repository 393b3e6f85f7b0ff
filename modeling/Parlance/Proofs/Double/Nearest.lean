import Parlance.Proofs.Double.Order

/-!
The double nearest to a number. Main statements: `Nearest.mono`, that rounding keeps the order, and
`Rounded.nearest`, that within a binade a number is rounded as its mantissa is.
-/

namespace Parlance.Double

/-- The number that a magnitude stands for, counted in the least positive double. -/
def units (n : Nat) : Nat :=
  (if n < 2 ^ 52 then n else 2 ^ 52 + n % 2 ^ 52) * 2 ^ (n / 2 ^ 52 - 1)

/-- A mantissa of up to 53 bits, of fewer only in the lowest binade. -/
theorem units_mantissa {k r : Nat} (hr : r ≤ 2 ^ 53) (hk : k = 0 ∨ 2 ^ 52 ≤ r) :
    units (k * 2 ^ 52 + r) = r * 2 ^ k := by
  rcases lt_trichotomy r (2 ^ 53) with h | rfl | h
  · by_cases hsmall : r < 2 ^ 52
    · obtain rfl : k = 0 := by omega
      rw [units, if_pos (by omega), show (0 * 2 ^ 52 + r) / 2 ^ 52 - 1 = 0 by omega]
      omega
    · have hdiv : (k * 2 ^ 52 + r) / 2 ^ 52 - 1 = k := by omega
      have hmod : 2 ^ 52 + (k * 2 ^ 52 + r) % 2 ^ 52 = r := by omega
      rw [units, if_neg (by omega), hdiv, hmod]
  · have hdiv : (k * 2 ^ 52 + 2 ^ 53) / 2 ^ 52 - 1 = k + 1 := by omega
    have hmod : (k * 2 ^ 52 + 2 ^ 53) % 2 ^ 52 = 0 := by omega
    rw [units, if_neg (by omega), hdiv, hmod, pow_succ]
    ring
  · omega

/-- Neighbours with one exponent are as far apart as their mantissas. -/
theorem units_add_units_succ {k r : Nat} (hr : r < 2 ^ 53) (hk : k = 0 ∨ 2 ^ 52 ≤ r) :
    units (k * 2 ^ 52 + r) + units (k * 2 ^ 52 + r + 1) = (2 * r + 1) * 2 ^ k := by
  rw [Nat.add_assoc, units_mantissa hr.le hk, units_mantissa (by omega) (by omega)]
  ring

theorem exists_mantissa (n : Nat) :
    ∃ k r, n = k * 2 ^ 52 + r ∧ r < 2 ^ 53 ∧ (k = 0 ∨ 2 ^ 52 ≤ r) :=
  ⟨n / 2 ^ 52 - 1, n - (n / 2 ^ 52 - 1) * 2 ^ 52, by omega, by omega, by omega⟩

theorem units_strictMono : StrictMono units := by
  apply strictMono_nat_of_lt_succ
  intro n
  obtain ⟨k, r, rfl, hr, hk⟩ := exists_mantissa n
  have hpow := Nat.two_pow_pos k
  have hmid := units_add_units_succ hr hk
  have hunits := units_mantissa hr.le hk
  nlinarith

/-- The magnitude of the double nearest to a number, the even one of two that are as near. The number
is counted in the least positive double. -/
structure Nearest (v : ℚ) (n : Nat) : Prop where
  le_above : 2 * v ≤ units n + units (n + 1)
  even_above : 2 * v = units n + units (n + 1) → Even n
  below_le : ∀ k, n = k + 1 → (units k + units n : ℚ) ≤ 2 * v
  even_below : ∀ k, n = k + 1 → (units k + units n : ℚ) = 2 * v → Even n

/-- Of two numbers the larger is not rounded to the smaller magnitude. -/
theorem Nearest.mono {v w : ℚ} {a b : Nat} (hv : Nearest v a) (hw : Nearest w b) (h : v ≤ w) :
    a ≤ b := by
  by_contra hlt
  obtain ⟨k, rfl⟩ : ∃ k, a = k + 1 := ⟨a - 1, by omega⟩
  have hbk : b ≤ k := by omega
  have hlow := units_strictMono.monotone hbk
  have hhigh := units_strictMono.monotone (Nat.add_le_add_right hbk 1)
  have hsum : (units b + units (b + 1) : ℚ) ≤ units k + units (k + 1) := by
    exact_mod_cast Nat.add_le_add hlow hhigh
  have hbelow := hv.below_le k rfl
  have habove := hw.le_above
  -- all midpoints between coincide, so both magnitudes are even neighbours
  have hmid : (units b + units (b + 1) : ℚ) = units k + units (k + 1) := by
    apply le_antisymm hsum
    linarith
  have heq : b = k := by
    have hnat : units b + units (b + 1) = units k + units (k + 1) := by exact_mod_cast hmid
    by_contra hne
    have := units_strictMono (by omega : b < k)
    omega
  subst heq
  have heven := hv.even_below b rfl (by linarith)
  have heven' := hw.even_above (by linarith)
  rw [Nat.even_add_one] at heven
  exact heven heven'

theorem nearest_units (n : Nat) : Nearest (units n) n where
  le_above := by
    have h : (units n : ℚ) < units (n + 1) := by exact_mod_cast units_strictMono n.lt_succ_self
    linarith
  even_above h := by
    have hlt : (units n : ℚ) < units (n + 1) := by exact_mod_cast units_strictMono n.lt_succ_self
    linarith
  below_le k hk := by
    have h : (units k : ℚ) < units n := by exact_mod_cast units_strictMono (by omega)
    linarith
  even_below k hk h := by
    have hlt : (units k : ℚ) < units n := by exact_mod_cast units_strictMono (by omega)
    linarith

/-- The integer nearest to a number, the even one of two that are as near. -/
structure Rounded (v : ℚ) (r : Nat) : Prop where
  le_above : 2 * v ≤ 2 * r + 1
  even_above : 2 * v = 2 * r + 1 → Even r
  below_le : 2 * (r : ℚ) ≤ 2 * v + 1
  even_below : 2 * (r : ℚ) = 2 * v + 1 → Even r

theorem Rounded.le {v : ℚ} {r n : Nat} (h : Rounded v r) (hv : v < n) : r ≤ n := by
  have hlt : (r : ℚ) < n + 1 := by linarith [h.below_le]
  exact Nat.le_of_lt_succ (by exact_mod_cast hlt)

theorem Rounded.ge {v : ℚ} {r n : Nat} (h : Rounded v r) (hv : n ≤ v) : n ≤ r := by
  have hlt : (n : ℚ) < r + 1 := by linarith [h.le_above]
  exact Nat.le_of_lt_succ (by exact_mod_cast hlt)

/-! Midpoints within a binade are those of the mantissa, but above a full one and below the first one. -/

section Midpoints

variable {k r : Nat} (hr : r ≤ 2 ^ 53) (hk : k = 0 ∨ 2 ^ 52 ≤ r)

include hr hk

theorem midpoint_above :
    (units (k * 2 ^ 52 + r) + units (k * 2 ^ 52 + r + 1) : ℚ) = (2 * r + 1) * 2 ^ k ∨ r = 2 ^ 53 := by
  rcases hr.lt_or_eq with hlt | heq
  · exact .inl (by exact_mod_cast units_add_units_succ hlt hk)
  · exact .inr heq

theorem midpoint_below {j : Nat} (hj : k * 2 ^ 52 + r = j + 1) :
    (units j + units (k * 2 ^ 52 + r) : ℚ) = (2 * r - 1) * 2 ^ k ∨ (k ≠ 0 ∧ r = 2 ^ 52) := by
  by_cases hfirst : k ≠ 0 ∧ r = 2 ^ 52
  · exact .inr hfirst
  · obtain ⟨q, rfl⟩ : ∃ q, r = q + 1 := ⟨r - 1, by omega⟩
    obtain rfl : j = k * 2 ^ 52 + q := by omega
    have hmid : (units (k * 2 ^ 52 + q) + units (k * 2 ^ 52 + q + 1) : ℚ) = (2 * q + 1) * 2 ^ k := by
      exact_mod_cast units_add_units_succ (by omega) (by omega)
    left
    rw [← Nat.add_assoc, hmid]
    push_cast
    ring

end Midpoints

/-- In every binade a magnitude is rounded as its mantissa is. -/
theorem Rounded.nearest {v : ℚ} {r : Nat} (h : Rounded v r) {k : Nat} (hv : v < (2 ^ 53 : Nat))
    (hk : k = 0 ∨ (2 ^ 52 : Nat) ≤ v) : Nearest (v * 2 ^ k) (k * 2 ^ 52 + r) := by
  have hr := h.le hv
  have hk' := hk.imp_right h.ge
  have heven (hr : Even r) : Even (k * 2 ^ 52 + r) :=
    ((by decide : Even (2 ^ 52)).mul_left k).add hr
  have hpow : (0 : ℚ) < 2 ^ k := by positivity
  have hunits : (units (k * 2 ^ 52 + r) : ℚ) = r * 2 ^ k := by
    exact_mod_cast units_mantissa hr hk'
  have hmono (n : Nat) : (units n : ℚ) < units (n + 1) := by
    exact_mod_cast units_strictMono n.lt_succ_self
  constructor
  · rcases midpoint_above hr hk' with he | hfull
    · rw [he, ← mul_assoc]
      exact mul_le_mul_of_nonneg_right h.le_above hpow.le
    · have hlt := mul_lt_mul_of_pos_right hv hpow
      have hnext := hmono (k * 2 ^ 52 + r)
      have hcast : (r : ℚ) = (2 ^ 53 : Nat) := congrArg Nat.cast hfull
      rw [hunits, hcast] at hnext ⊢
      linarith
  · intro he
    rcases midpoint_above hr hk' with he' | rfl
    · rw [he', ← mul_assoc] at he
      exact heven (h.even_above (mul_right_cancel₀ hpow.ne' he))
    · exact heven (by decide)
  · intro j hj
    rcases midpoint_below hr hk' hj with he | ⟨hk0, hfirst⟩
    · rw [he, ← mul_assoc]
      exact mul_le_mul_of_nonneg_right (by linarith [h.below_le]) hpow.le
    · have hle := mul_le_mul_of_nonneg_right (hk.resolve_left hk0) hpow.le
      have hprevious := hmono j
      have hcast : (r : ℚ) = (2 ^ 52 : Nat) := congrArg Nat.cast hfirst
      rw [← hj, hunits, hcast] at hprevious
      rw [hunits, hcast]
      linarith
  · intro j hj he
    rcases midpoint_below hr hk' hj with he' | ⟨hk0, rfl⟩
    · rw [he', ← mul_assoc] at he
      exact heven (h.even_below (by linarith [mul_right_cancel₀ hpow.ne' he]))
    · exact heven (by decide)

end Parlance.Double
