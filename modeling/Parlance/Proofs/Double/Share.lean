import Parlance.Proofs.Double.Finite
import Parlance.Wake.Comparison

/-!
Doubles between zero and one. Main statements: `share_div_toFloat` and `Share.one_sub_lt_one`, by which one
minus a quotient of whole numbers is such a double, and less than one unless the quotient is zero.
-/

namespace Parlance

namespace Double

/-- A double between zero and one. -/
structure Share (x : Float) : Prop where
  amount : Amount x
  value_le : value x ≤ 1

variable {x y : Float}

theorem Share.le_one (h : Share x) : x ≤ 1.0 :=
  h.amount.rounds.le amount_one.rounds (h.value_le.trans value_one.ge)

theorem share_of_le_one (h : Amount x) (hle : x ≤ 1.0) : Share x := by
  have hplace := (le_iff_place_le h.isNaN amount_one.isNaN).1 hle
  rw [place_eq_magnitude h.place_nonneg, place_eq_magnitude amount_one.place_nonneg] at hplace
  have hmagnitude : magnitude x ≤ magnitude 1.0 := by exact_mod_cast hplace
  exact ⟨h, (value_le_of_magnitude_le hmagnitude).trans value_one.le⟩

theorem share_one : Share 1.0 :=
  ⟨amount_one, value_one.le⟩

theorem Share.eq_one (h : Share x) (hle : 1.0 ≤ x) : x = 1.0 := by
  have hpos : 0 < place 1.0 := by decide
  have hlow := (le_iff_place_le amount_one.isNaN h.amount.isNaN).1 hle
  have hhigh := (le_iff_place_le h.amount.isNaN amount_one.isNaN).1 h.le_one
  exact eq_of_place_eq (hhigh.antisymm hlow) hpos

theorem value_zero : value 0.0 = 0 := by
  rw [value, show magnitude 0.0 = 0 by decide, show units 0 = 0 by decide, Nat.cast_zero, zero_mul]

theorem share_zero : Share 0.0 :=
  ⟨⟨by decide, by decide⟩, value_zero.le.trans zero_le_one⟩

theorem Share.zero_le (h : Share x) : 0.0 ≤ x :=
  (le_iff_place_le share_zero.amount.isNaN h.amount.isNaN).2 h.amount.place_nonneg

theorem share_of_rounds {v : ℚ} (h : Rounds v x) (hv : v ≤ 1) : Share x := by
  rw [← value_one] at hv
  exact ⟨h.amount amount_one hv, (h.value_le amount_one.rounds hv).trans value_one.le⟩

theorem Share.mul (hx : Share x) (hy : Share y) : Share (x * y) :=
  share_of_rounds (rounds_mul hx.amount hy.amount)
    (mul_le_one₀ hx.value_le (value_nonneg y) hy.value_le)

theorem Share.rounds_one_sub (h : Share x) : Rounds (1 - value x) (1.0 - x) := by
  rw [← value_one]
  rcases rounds_sub amount_one h.amount with ⟨-, hround⟩ | ⟨hlt, -⟩
  · exact hround
  · rw [value_one] at hlt
    exact absurd h.value_le (not_le.2 hlt)

theorem Share.one_sub (h : Share x) : Share (1.0 - x) :=
  share_of_rounds h.rounds_one_sub (by linarith [value_nonneg x])

theorem Amount.lt_of_value_lt (hx : Amount x) (hy : Amount y) (h : value x < value y) : x < y := by
  rw [lt_iff_place_lt hx.isNaN hy.isNaN, place_eq_magnitude hx.place_nonneg,
    place_eq_magnitude hy.place_nonneg]
  by_contra hle
  have hmagnitude : magnitude y ≤ magnitude x := by exact_mod_cast not_lt.1 hle
  exact absurd h (not_lt.2 (value_le_of_magnitude_le hmagnitude))

/-- The largest double below one. -/
def justBelowOne : Float :=
  Float.ofBits 0x3FEFFFFFFFFFFFFF

theorem amount_justBelowOne : Amount justBelowOne :=
  ⟨by decide, by decide⟩

theorem value_justBelowOne : value justBelowOne = 1 - 2 ^ (-53 : Int) := by
  rw [value_eq (k := 1021) (r := 2 ^ 53 - 1) (by decide) (.inr (by decide)) (by decide)]
  norm_num

/-- Taking off what is not too small is seen. -/
theorem Share.one_sub_lt_one (h : Share x) (hx : 2 ^ (-53 : Int) ≤ value x) : 1.0 - x < 1.0 := by
  have hle : 1 - value x ≤ value justBelowOne := by
    rw [value_justBelowOne]
    linarith
  have hpos : (0 : ℚ) < 2 ^ (-53 : Int) := by positivity
  apply h.one_sub.amount.lt_of_value_lt amount_one
  calc value (1.0 - x) ≤ value justBelowOne := h.rounds_one_sub.value_le amount_justBelowOne.rounds hle
    _ < value 1.0 := by rw [value_one, value_justBelowOne]; linarith

/-! Quotients of whole numbers. -/

/-- The inverse of the first whole number that doubles cannot tell from the next one. -/
def twoPowNeg53 : Float :=
  Float.ofBits 0x3CA0000000000000

theorem amount_twoPowNeg53 : Amount twoPowNeg53 :=
  ⟨by decide, by decide⟩

theorem value_twoPowNeg53 : value twoPowNeg53 = 2 ^ (-53 : Int) := by
  rw [value_eq (k := 969) (r := 2 ^ 52) (by decide) (.inr le_rfl) (by decide)]
  norm_num

/-- The first whole number of more than 128 bits. -/
def twoPow128 : Float :=
  Float.ofBits 0x47F0000000000000

theorem amount_twoPow128 : Amount twoPow128 :=
  ⟨by decide, by decide⟩

theorem value_twoPow128 : value twoPow128 = 2 ^ 128 := by
  rw [value_eq (k := 1150) (r := 2 ^ 52) (by decide) (.inr le_rfl) (by decide)]
  norm_num

variable {d n : Nat}

theorem amount_toFloat (hn : n ≤ 2 ^ 128) : Amount n.toFloat := by
  apply (rounds_floatOfNat n).amount amount_twoPow128
  rw [value_twoPow128]
  exact_mod_cast hn

theorem one_le_value_toFloat (hpos : 0 < n) : 1 ≤ value n.toFloat := by
  have hcast : value 1.0 ≤ (n : ℚ) := by
    rw [value_one]
    exact_mod_cast hpos
  have hle := amount_one.rounds.value_le (rounds_floatOfNat n) hcast
  rwa [value_one] at hle

theorem value_toFloat_le (hn : n < 2 ^ 53) : value n.toFloat ≤ 2 ^ 53 := by
  have hcast : (n : ℚ) ≤ value twoPow53 := by
    rw [value_twoPow53]
    exact_mod_cast hn.le
  have hle := (rounds_toFloat hn).value_le amount_twoPow53.rounds hcast
  rwa [value_twoPow53] at hle

theorem rounds_div_toFloat (hle : d ≤ n) (hpos : 0 < n) (hn : n ≤ 2 ^ 128) :
    Rounds (value d.toFloat / value n.toFloat) (d.toFloat / n.toFloat) :=
  rounds_div (amount_toFloat (hle.trans hn)) (amount_toFloat hn)
    (zero_lt_one.trans_le (one_le_value_toFloat hpos))

theorem share_div_toFloat (hle : d ≤ n) (hpos : 0 < n) (hn : n ≤ 2 ^ 128) :
    Share (d.toFloat / n.toFloat) := by
  have hmono : value d.toFloat ≤ value n.toFloat :=
    (rounds_floatOfNat d).value_le (rounds_floatOfNat n) (by exact_mod_cast hle)
  have hpos' := zero_lt_one.trans_le (one_le_value_toFloat hpos)
  exact share_of_rounds (rounds_div_toFloat hle hpos hn) ((div_le_one hpos').2 hmono)

theorem le_value_div_toFloat (hle : d ≤ n) (hd : 0 < d) (hn : n < 2 ^ 53) :
    2 ^ (-53 : Int) ≤ value (d.toFloat / n.toFloat) := by
  have hpos : 0 < n := hd.trans_le hle
  have hlower : value twoPowNeg53 ≤ value d.toFloat / value n.toFloat := by
    rw [value_twoPowNeg53, le_div_iff₀ (zero_lt_one.trans_le (one_le_value_toFloat hpos))]
    calc (2 : ℚ) ^ (-53 : Int) * value n.toFloat ≤ 2 ^ (-53 : Int) * 2 ^ 53 :=
          mul_le_mul_of_nonneg_left (value_toFloat_le hn) (by positivity)
      _ = 1 := by norm_num
      _ ≤ value d.toFloat := one_le_value_toFloat hd
  have hround :=
    amount_twoPowNeg53.rounds.value_le (rounds_div_toFloat hle hpos (by omega)) hlower
  rwa [value_twoPowNeg53] at hround

end Double

/-- What the settings accept as a share is one. -/
theorem Wake.share_of_isShare {x : Float} (h : isShare x) : Double.Share x := by
  rw [isShare, Bool.and_eq_true, decide_eq_true_eq, decide_eq_true_eq] at h
  obtain ⟨hlow, hhigh⟩ := h
  obtain ⟨hx, hone⟩ := Double.isNaN_eq_false_of_le hhigh
  have hplace : 0 ≤ Double.place x := (Double.le_iff_place_le (by decide) hx).1 hlow
  have htop := (Double.le_iff_place_le hx hone).1 hhigh
  have hplaceOne : Double.place 1.0 = 1023 * 2 ^ 52 := by decide
  rw [Double.place_eq_magnitude hplace, hplaceOne] at htop
  exact Double.share_of_le_one ⟨hplace, by omega⟩ hhigh

end Parlance
