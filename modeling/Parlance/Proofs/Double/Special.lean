import Parlance.Proofs.Double.Share
import Parlance.Proofs.Double.Zero

/-!
Arithmetic where a zero, an infinity or no number is among the operands. Main statements:
`PositiveZero.add_zero` and `isNaN_mul_zero`, by which nothing is added by a finite number taken no times,
while an infinite one taken no times is no number; and `Share.of_div_toFloat`, that a quotient of whole
numbers, however large, lies between zero and one where it is a number.
-/

namespace Parlance.Double

open Float.Model UnpackedFloat

variable {x y : Float}

/-- The double above all others. -/
def infinity : Float :=
  Float.ofBits 0x7FF0000000000000

theorem ofModel_pack_unpack (x : Float) : Float.ofModel (pack x.toModel.unpack) = x := by
  have hbits := pack_unpack_of_valid x.toModel.valid
  rw [← Float.toBits_inj]
  exact UInt64.eq_of_toBitVec_eq hbits

/-! What is unpacked. -/

theorem unpack_of_isNaN (h : x.isNaN) : x.toModel.unpack = .notANumber := by
  have hmagnitude := (isNaN_iff x).1 h
  have hmeans := means_unpack x
  generalize x.toModel.unpack = f at hmeans ⊢
  cases hmeans with
  | notANumber => rfl
  | infinity | zero | subnormal | normal => omega

theorem unpack_of_magnitude_eq_zero (h : magnitude x = 0) : x.toModel.unpack = .zero (sign x) := by
  have hmeans := means_unpack x
  generalize x.toModel.unpack = f at hmeans ⊢
  cases hmeans with
  | zero => rfl
  | infinity | notANumber | subnormal | normal => omega

theorem magnitude_of_isFinite_eq_false (h : x.isFinite = false) (hx : x.isNaN = false) :
    magnitude x = 2047 * 2 ^ 52 := by
  have hle : ¬2047 * 2 ^ 52 < magnitude x := by
    rw [← isNaN_iff, hx]
    exact Bool.false_ne_true
  have hge : ¬magnitude x < 2047 * 2 ^ 52 := by
    rw [← isFinite_iff, h]
    exact Bool.false_ne_true
  omega

theorem unpack_of_isFinite_eq_false (h : x.isFinite = false) (hx : x.isNaN = false) :
    x.toModel.unpack = .infinity (sign x) := by
  have hmagnitude := magnitude_of_isFinite_eq_false h hx
  have hmeans := means_unpack x
  generalize x.toModel.unpack = f at hmeans ⊢
  cases hmeans with
  | infinity => rfl
  | notANumber | zero | subnormal | normal => omega

theorem unpack_zero : (0.0 : Float).toModel.unpack = .zero .positive :=
  unpack_of_magnitude_eq_zero (by decide)

/-- What is neither finite nor below zero is infinity, if it is a number. -/
theorem eq_infinity (h : x.isFinite = false) (hx : x.isNaN = false) (hplace : 0 ≤ place x) :
    x = infinity := by
  have hinfinity : place infinity = (2047 * 2 ^ 52 : Nat) := by decide
  refine eq_of_place_eq ?_ (by decide)
  rw [place_eq_magnitude hplace, magnitude_of_isFinite_eq_false h hx, hinfinity]

/-! Zeros. -/

theorem PositiveZero.add_zero (hx : PositiveZero x) (hy : magnitude y = 0) : x + y = x := by
  suffices hadd : UnpackedFloat.add Format.binary64 x.toModel.unpack y.toModel.unpack = x.toModel.unpack by
    change Float.ofModel (pack (UnpackedFloat.add Format.binary64 x.toModel.unpack y.toModel.unpack)) = x
    rw [hadd, ofModel_pack_unpack]
  rw [unpack_of_magnitude_eq_zero hy]
  have hmeans := means_unpack x
  generalize x.toModel.unpack = f at hmeans ⊢
  cases hmeans with
  | zero h =>
    rw [hx h]
    cases sign y <;> rfl
  | infinity | notANumber | subnormal | normal => rfl

/-- A finite number taken no times is a zero. -/
theorem magnitude_mul_zero (h : x.isFinite) : magnitude (x * 0.0) = 0 := by
  have hmagnitude := (isFinite_iff x).1 h
  change magnitude (.ofModel (pack (UnpackedFloat.mul _ x.toModel.unpack (0.0 : Float).toModel.unpack))) = 0
  rw [unpack_zero]
  have hmeans := means_unpack x
  generalize x.toModel.unpack = f at hmeans ⊢
  cases hmeans with
  | zero | subnormal | normal => exact (packs_zero _).magnitude
  | infinity | notANumber => omega

/-! What is no number. -/

theorem isNaN_notANumber : (Float.ofModel (pack .notANumber)).isNaN := by decide

/-- An infinite number taken no times is none. -/
theorem isNaN_mul_zero (h : x.isFinite = false) : (x * 0.0).isNaN := by
  change (Float.ofModel
    (pack (UnpackedFloat.mul _ x.toModel.unpack (0.0 : Float).toModel.unpack))).isNaN
  rw [unpack_zero]
  by_cases hx : x.isNaN
  · rw [unpack_of_isNaN hx]
    exact isNaN_notANumber
  · rw [unpack_of_isFinite_eq_false h (by simpa using hx)]
    exact isNaN_notANumber

theorem isNaN_add (hy : y.isNaN) : (x + y).isNaN := by
  change (Float.ofModel (pack (UnpackedFloat.add _ x.toModel.unpack y.toModel.unpack))).isNaN
  rw [unpack_of_isNaN hy]
  cases x.toModel.unpack <;> exact isNaN_notANumber

theorem isNaN_sub (hy : y.isNaN) : (x - y).isNaN := by
  change (Float.ofModel (pack (UnpackedFloat.sub _ x.toModel.unpack y.toModel.unpack))).isNaN
  rw [unpack_of_isNaN hy]
  cases x.toModel.unpack <;> exact isNaN_notANumber

/-! Quotients. -/

theorem share_div_infinity (hx : Amount x) : Share (x / infinity) := by
  apply share_of_rounds _ zero_le_one
  have hinfinity : infinity.toModel.unpack = .infinity .positive :=
    unpack_of_isFinite_eq_false (by decide) (by decide)
  change Rounds 0 (.ofModel (pack (UnpackedFloat.div _ x.toModel.unpack infinity.toModel.unpack)))
  rw [hinfinity]
  rcases hx.unpack with ⟨-, s, hzero⟩ | ⟨m, e, hm, hfinite, -⟩
  · rw [hzero]
    exact .zero
  · rw [hfinite]
    exact .zero

/-- Whole numbers of more than a thousand bits are infinite as doubles, and of two such there is no
quotient. -/
theorem Share.of_div_toFloat {d n : Nat} (hle : d ≤ n) (hpos : 0 < n)
    (h : (d.toFloat / n.toFloat).isNaN = false) : Share (d.toFloat / n.toFloat) := by
  have hd : Rounds d d.toFloat := rounds_floatOfNat d
  have hn : Rounds n n.toFloat := rounds_floatOfNat n
  have hcast : (d : ℚ) ≤ n := by exact_mod_cast hle
  by_cases hfinite : n.toFloat.isFinite
  · have hn' : Amount n.toFloat := ⟨hn.place_nonneg, (isFinite_iff _).1 hfinite⟩
    have hd' : Amount d.toFloat := ⟨hd.place_nonneg, (hd.magnitude_le hn hcast).trans_lt hn'.finite⟩
    have hpos' := zero_lt_one.trans_le (one_le_value_toFloat hpos)
    exact share_of_rounds (rounds_div hd' hn' hpos') ((div_le_one hpos').2 (hd.value_le hn hcast))
  · have hinfinity : n.toFloat = infinity := eq_infinity (by simpa using hfinite) hn.isNaN hn.place_nonneg
    rw [hinfinity] at h ⊢
    by_cases hfinite' : d.toFloat.isFinite
    · exact share_div_infinity ⟨hd.place_nonneg, (isFinite_iff _).1 hfinite'⟩
    · rw [eq_infinity (by simpa using hfinite') hd.isNaN hd.place_nonneg] at h
      exact absurd h (by decide)

end Parlance.Double
