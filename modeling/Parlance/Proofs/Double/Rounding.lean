import Parlance.Proofs.Double.Nearest

/-!
How the arithmetic of doubles rounds. Main statement: `packs_roundWithAccuracy`, that shifting the bits
that do not fit out of a mantissa, with what they tell kept in two residual bits, gives the nearest
double.
-/

namespace Parlance.Double

open Float.Model UnpackedFloat

/-! Rounding a mantissa. -/

/-- What a mantissa and its residual bits tell of a number. -/
def Tells (em : ExtendedMantissa) (v : ℚ) : Prop :=
  match em with
  | ⟨m, false, false⟩ => v = m
  | ⟨m, false, true⟩ => m < v ∧ v < m + 1 / 2
  | ⟨m, true, false⟩ => v = m + 1 / 2
  | ⟨m, true, true⟩ => m + 1 / 2 < v ∧ v < m + 1

theorem Tells.floor {em : ExtendedMantissa} {v : ℚ} (h : Tells em v) :
    em.mantissa ≤ v ∧ v < em.mantissa + 1 := by
  obtain ⟨m, r, s⟩ := em
  cases r <;> cases s <;> simp only [Tells] at h ⊢ <;> constructor <;> linarith

theorem Tells.shiftRightOne {em : ExtendedMantissa} {v : ℚ} (h : Tells em v) :
    Tells em.shiftRightOne (v / 2) := by
  obtain ⟨m, r, s⟩ := em
  obtain ⟨q, rfl | rfl⟩ := Nat.even_or_odd' m
  · have hshift : ExtendedMantissa.shiftRightOne ⟨2 * q, r, s⟩ = ⟨q, false, r || s⟩ := by
      simp [ExtendedMantissa.shiftRightOne]
    rw [hshift]
    cases r <;> cases s <;> simp only [Tells, Bool.or_true, Bool.or_false] at h ⊢ <;>
      push_cast at h
    · linarith
    all_goals constructor <;> linarith
  · have hshift : ExtendedMantissa.shiftRightOne ⟨2 * q + 1, r, s⟩ = ⟨q, true, r || s⟩ := by
      simp [ExtendedMantissa.shiftRightOne]
      omega
    rw [hshift]
    cases r <;> cases s <;> simp only [Tells, Bool.or_true, Bool.or_false] at h ⊢ <;>
      push_cast at h
    · linarith
    all_goals constructor <;> linarith

theorem Tells.shiftRight {em : ExtendedMantissa} {v : ℚ} (h : Tells em v) (k : Nat) :
    Tells (em >>> k) (v / 2 ^ k) := by
  induction k with
  | zero =>
    rw [pow_zero, div_one]
    exact h
  | succ k ih =>
    have hstep : em >>> (k + 1) = (em >>> k).shiftRightOne := rfl
    rw [hstep, pow_succ, ← div_div]
    exact ih.shiftRightOne

theorem Tells.rounded {em : ExtendedMantissa} {v : ℚ} (h : Tells em v) :
    Rounded v em.roundedMantissa := by
  obtain ⟨m, r, s⟩ := em
  cases r <;> cases s <;>
    simp only [Tells, ExtendedMantissa.roundedMantissa, ExtendedMantissa.accuracy,
      Accuracy.roundToNearestEven] at h ⊢
  · constructor <;> intros <;> linarith
  · constructor <;> intros <;> linarith
  · have heven : Even (m + m % 2) := by
      rw [Nat.even_iff]
      omega
    have hlow : (0 : ℚ) ≤ (m % 2 : Nat) := Nat.cast_nonneg _
    have hhigh : ((m % 2 : Nat) : ℚ) ≤ 1 := by exact_mod_cast Nat.le_of_lt_succ (Nat.mod_lt m two_pos)
    constructor
    · push_cast
      linarith
    · exact fun _ => heven
    · push_cast
      linarith
    · exact fun _ => heven
  · constructor <;> intros <;> push_cast at * <;> linarith

/-! Packing. -/

theorem toBits_pack (f : UnpackedFloat) :
    (Float.ofModel (pack f)).toBits.toNat = (UnpackedFloat.pack Format.binary64 f).toNat :=
  rfl

theorem toNat_packComponents (s : Sign) (e : BitVec 11) (m : BitVec 52) :
    (packComponents Format.binary64 s e m).toNat =
      s.toBitVec.toNat * 2 ^ 63 + e.toNat * 2 ^ 52 + m.toNat := by
  have he : e.toNat < 2 ^ 11 := e.isLt
  have hm : m.toNat < 2 ^ 52 := m.isLt
  have hcomponents : (packComponents Format.binary64 s e m).toNat =
      ((s.toBitVec ++ e) ++ m).toNat := rfl
  rw [hcomponents, BitVec.toNat_append, BitVec.toNat_append, ← Nat.shiftLeft_add_eq_or_of_lt he,
    ← Nat.shiftLeft_add_eq_or_of_lt hm, Nat.shiftLeft_eq, Nat.shiftLeft_eq]
  ring

/-- What is packed has the sign and magnitude. -/
structure Packs (f : UnpackedFloat) (s : Sign) (n : Nat) : Prop where
  sign : sign (.ofModel (pack f)) = s
  magnitude : magnitude (.ofModel (pack f)) = n

theorem packs_of_packComponents {f : UnpackedFloat} {s : Sign} {e : BitVec 11} {m : BitVec 52}
    (h : UnpackedFloat.pack Format.binary64 f = packComponents Format.binary64 s e m) :
    Packs f s (e.toNat * 2 ^ 52 + m.toNat) := by
  have he : e.toNat < 2 ^ 11 := e.isLt
  have hm : m.toNat < 2 ^ 52 := m.isLt
  have hbits : (Float.ofModel (pack f)).toBits.toNat =
      s.toBitVec.toNat * 2 ^ 63 + e.toNat * 2 ^ 52 + m.toNat := by
    rw [toBits_pack, h, toNat_packComponents]
  constructor
  · rw [Double.sign, hbits]
    cases s with
    | positive =>
      have hs : (Sign.positive.toBitVec).toNat = 0 := rfl
      rw [hs, if_pos (by omega)]
    | negative =>
      have hs : (Sign.negative.toBitVec).toNat = 1 := rfl
      rw [hs, if_neg (by omega)]
  · rw [Double.magnitude, hbits]
    omega

theorem packs_zero (s : Sign) : Packs (.zero s) s 0 := by
  have h := packs_of_packComponents (f := .zero s) (e := 0) (m := 0) rfl
  simpa using h

/-- A mantissa in its binade, or infinity behind the last of them. -/
theorem packs_finite (s : Sign) {k m : Nat} (hm : m < 2 ^ 53) (hk : k = 0 ∨ 2 ^ 52 ≤ m)
    (hpos : 0 < m) :
    Packs (.finite s m (k - 1074) hpos) s (min (k * 2 ^ 52 + m) (2047 * 2 ^ 52)) := by
  have hbiased : ((k : Int) - 1074 + Format.binary64.exponentBias +
      Format.binary64.mantissaBitsWithoutImplicit).toNat = k + 1 := by
    have : ((Format.binary64.exponentBias : Nat) : Int) = 1023 := rfl
    have : ((Format.binary64.mantissaBitsWithoutImplicit : Nat) : Int) = 52 := rfl
    omega
  have hbits : UnpackedFloat.pack Format.binary64 (.finite s m (k - 1074) hpos) =
      if 2 ^ 11 ≤ k + 1 + 1 then packedInfinity Format.binary64 s
      else if m.log2 + 1 = 53 then
        packComponents Format.binary64 s (BitVec.ofNat 11 (k + 1)) (BitVec.ofNat 52 m)
      else packComponents Format.binary64 s 0 (BitVec.ofNat 52 m) := by
    rw [UnpackedFloat.pack, hbiased]
    rfl
  have hlog : m.log2 + 1 = 53 ↔ 2 ^ 52 ≤ m := by
    have hle := Nat.le_log2 (k := 52) hpos.ne'
    have hlt := Nat.log2_lt (k := 53) hpos.ne'
    omega
  split at hbits
  · have h := packs_of_packComponents hbits
    rw [min_eq_right (by omega)]
    exact h
  · split at hbits
    · have h := packs_of_packComponents hbits
      rw [BitVec.toNat_ofNat, BitVec.toNat_ofNat, Nat.mod_eq_of_lt (by omega : k + 1 < 2 ^ 11)] at h
      rw [min_eq_left (by omega)]
      convert h using 1
      omega
    · have h := packs_of_packComponents hbits
      rw [BitVec.toNat_ofNat] at h
      rw [min_eq_left (by omega)]
      convert h using 1
      change _ = 0 * _ + _
      omega

theorem target_eq (m : Nat) (e : Int) :
    Format.binary64.targetExponent (totalExponent m e) = max (m.log2 + e - 52) (-1074) := by
  have hbits : ((Format.binary64.mantissaBits : Nat) : Int) = 53 := rfl
  have hmin : Format.binary64.minExponent = -1074 := rfl
  rw [Format.targetExponent, totalExponent, hbits, hmin]
  omega

theorem shiftToTargetExponent_of_le {m : Nat} {e : Int} (a : Accuracy)
    (h : e ≤ max (m.log2 + e - 52) (-1074)) :
    shiftToTargetExponent Format.binary64 m e a =
      (ExtendedMantissa.ofMantissaAndAccuracy m a >>> (max (m.log2 + e - 52) (-1074) - e).toNat,
        max (m.log2 + e - 52) (-1074)) := by
  rw [shiftToTargetExponent, shiftToExponent, target_eq]
  congr 1
  omega

theorem shiftToTargetExponent_of_ge {m : Nat} {e : Int}
    (h : max (m.log2 + e - 52) (-1074) ≤ e) :
    shiftToTargetExponent Format.binary64 m e .exact = (⟨m, false, false⟩, e) := by
  have hzero : (max (m.log2 + e - 52) (-1074) - e).toNat = 0 := by omega
  rw [shiftToTargetExponent, shiftToExponent, target_eq, hzero]
  congr 1
  exact Int.add_zero e

/-- The shift after the rounding takes back a carry. -/
theorem packs_shifted (s : Sign) {k r : Nat} (hr : r ≤ 2 ^ 53) (hk : k = 0 ∨ 2 ^ 52 ≤ r) :
    Packs
      (let shifted := shiftToTargetExponent Format.binary64 r (k - 1074) .exact
        if h : shifted.1.mantissa = 0 then .zero s
        else .finite s shifted.1.mantissa shifted.2 (Nat.pos_of_ne_zero h))
      s (min (k * 2 ^ 52 + r) (2047 * 2 ^ 52)) := by
  rcases hr.lt_or_eq with hlt | rfl
  · have hlog : r.log2 ≤ 52 := by
      by_cases hzero : r = 0
      · rw [hzero]
        decide
      · exact Nat.le_of_lt_succ ((Nat.log2_lt hzero).2 hlt)
    rw [shiftToTargetExponent_of_ge (by omega)]
    dsimp only
    split
    · rename_i hzero
      obtain rfl : k = 0 := by omega
      rw [hzero]
      exact packs_zero s
    · exact packs_finite s hlt hk _
  · have hlog : (2 ^ 53 : Nat).log2 = 53 := Nat.log2_two_pow
    have hcarry : shiftToTargetExponent Format.binary64 (2 ^ 53) (k - 1074) .exact =
        (ExtendedMantissa.mk (2 ^ 52) false false, ((k + 1 : Nat) : Int) - 1074) := by
      have hone :
          (max ((2 ^ 53 : Nat).log2 + ((k : Int) - 1074) - 52) (-1074) - (k - 1074)).toNat = 1 := by
        rw [hlog]
        omega
      rw [shiftToTargetExponent_of_le _ (by rw [hlog]; omega), hone]
      congr 1
      rw [hlog]
      omega
    rw [hcarry]
    have h := packs_finite s (k := k + 1) (m := 2 ^ 52) (by decide) (.inr le_rfl) (by decide)
    have hsum : (k + 1) * 2 ^ 52 + 2 ^ 52 = k * 2 ^ 52 + 2 ^ 53 := by ring
    rw [hsum] at h
    exact h

/-- Rounding what a mantissa and its accuracy tell of gives the nearest double. The mantissa needs all
its bits where the exponent is not the least. -/
theorem packs_roundWithAccuracy (s : Sign) {m : Nat} {e : Int} {a : Accuracy} {v : ℚ}
    (hv : Tells (.ofMantissaAndAccuracy m a) v) (hm : 2 ^ 52 ≤ m ∨ e ≤ -1074) :
    ∃ n, Nearest (v * 2 ^ (e + 1074)) n ∧
      Packs (roundWithAccuracy Format.binary64 s m e a) s (min n (2047 * 2 ^ 52)) := by
  have hlog : 2 ^ 52 ≤ m → 52 ≤ m.log2 := fun h => (Nat.le_log2 (by omega)).2 h
  obtain ⟨j, hj⟩ : ∃ j : Nat, max (m.log2 + e - 52) (-1074) = e + j :=
    ⟨(max (m.log2 + e - 52) (-1074) - e).toNat, by omega⟩
  obtain ⟨k, hk⟩ : ∃ k : Nat, e + j = k - 1074 := ⟨(e + j + 1074).toNat, by omega⟩
  have hshift := shiftToTargetExponent_of_le (m := m) (e := e) a (by omega)
  rw [hj, show (e + j - e).toNat = j by omega, hk] at hshift
  have hfloor := hv.floor
  have hmantissa : (ExtendedMantissa.ofMantissaAndAccuracy m a).mantissa = m := by
    cases a with
    | exact => rfl
    | inexact o => cases o <;> rfl
  rw [hmantissa] at hfloor
  have hhigh : v / 2 ^ j < (2 ^ 53 : Nat) := by
    have hlt : m + 1 ≤ 2 ^ 53 * 2 ^ j := by
      rw [← pow_add]
      exact Nat.lt_log2_self.trans_le (Nat.pow_le_pow_right two_pos (by omega))
    rw [div_lt_iff₀ (by positivity)]
    exact hfloor.2.trans_le (by exact_mod_cast hlt)
  have hlow : k = 0 ∨ (2 ^ 52 : Nat) ≤ v / 2 ^ j := by
    by_cases hk0 : k = 0
    · exact .inl hk0
    · have hne : m ≠ 0 := by
        rintro rfl
        rw [Nat.log2_zero] at hj
        omega
      have hle : 2 ^ 52 * 2 ^ j ≤ m := by
        rw [← pow_add, show 52 + j = m.log2 by omega]
        exact Nat.log2_self_le hne
      right
      rw [le_div_iff₀ (by positivity)]
      exact le_trans (by exact_mod_cast hle) hfloor.1
  have hrounded := (hv.shiftRight j).rounded
  have hnearest := hrounded.nearest hhigh hlow
  have hvalue : v / 2 ^ j * 2 ^ k = v * (2 : ℚ) ^ (e + 1074) := by
    rw [show e + 1074 = (k : Int) - j by omega, zpow_sub₀ two_ne_zero, zpow_natCast, zpow_natCast]
    ring
  rw [hvalue] at hnearest
  refine ⟨_, hnearest, ?_⟩
  rw [roundWithAccuracy, hshift]
  exact packs_shifted s (hrounded.le hhigh) (hlow.imp_right hrounded.ge)

end Parlance.Double
