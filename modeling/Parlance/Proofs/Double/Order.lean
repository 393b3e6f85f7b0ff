import Mathlib

/-!
The order of doubles read off their bits. Main statement: `le_iff_place_le`, which turns a comparison
of doubles into one of integers.
-/

namespace Parlance.Double

open Float.Model UnpackedFloat

/-- The bits without the sign: larger for numbers farther from zero. -/
def magnitude (x : Float) : Nat :=
  x.toBits.toNat % 2 ^ 63

def sign (x : Float) : Sign :=
  if x.toBits.toNat < 2 ^ 63 then .positive else .negative

def signed : Sign → Nat → Int
  | .positive, n => n
  | .negative, n => -n

/-- The place of a double in the order of numbers, the same for both zeros. -/
def place (x : Float) : Int :=
  signed (sign x) (magnitude x)

theorem magnitude_lt (x : Float) : magnitude x < 2 ^ 63 :=
  Nat.mod_lt _ (by decide)

theorem toNat_unpackMantissa (b : BitVec 64) :
    (@unpackMantissa Format.binary64 b).toNat = b.toNat % 2 ^ 63 % 2 ^ 52 := by
  simp only [unpackMantissa, BitVec.toNat_cast, BitVec.extractLsb_toNat]
  simp

theorem toNat_unpackExponent (b : BitVec 64) :
    (@unpackExponent Format.binary64 b).toNat = b.toNat % 2 ^ 63 / 2 ^ 52 := by
  simp only [unpackExponent, BitVec.toNat_cast, BitVec.extractLsb_toNat, Nat.shiftRight_eq_div_pow]
  simp
  omega

theorem toNat_unpackSign (b : BitVec 64) :
    (@unpackSign Format.binary64 b).toNat = b.toNat / 2 ^ 63 := by
  simp only [unpackSign, BitVec.toNat_cast, BitVec.extractLsb_toNat, Nat.shiftRight_eq_div_pow]
  have hb := b.isLt
  simp
  omega

theorem ofBitVec_unpackSign (x : Float) :
    Sign.ofBitVec (@unpackSign Format.binary64 x.toModel.toBits.toBitVec) = sign x := by
  have h : (@unpackSign Format.binary64 x.toModel.toBits.toBitVec).toNat =
      x.toBits.toNat / 2 ^ 63 := toNat_unpackSign _
  have hlt : x.toBits.toNat < 2 ^ 64 := x.toBits.toBitVec.isLt
  unfold Sign.ofBitVec sign
  split
  · rename_i hb
    rw [hb] at h
    change 0 = _ at h
    rw [if_pos (by omega)]
  · rename_i hb
    rw [if_neg]
    intro hn
    refine hb (BitVec.eq_of_toNat_eq ?_)
    change _ = 0
    omega

/-- What a sign and a magnitude say. -/
inductive Means (s : Sign) (n : Nat) : UnpackedFloat → Prop
  | infinity (h : n = 2047 * 2 ^ 52) : Means s n (.infinity s)
  | notANumber (h : 2047 * 2 ^ 52 < n) : Means s n .notANumber
  | zero (h : n = 0) : Means s n (.zero s)
  | subnormal (hn : 0 < n) (h : n < 2 ^ 52) : Means s n (.finite s n (-1074) hn)
  | normal (m e : Nat) (hm : m < 2 ^ 52) (he : 0 < e) (he' : e < 2047) (h : n = e * 2 ^ 52 + m)
      (hp : 0 < 2 ^ 52 + m) : Means s n (.finite s (2 ^ 52 + m) (e - 1075) hp)

theorem means_unpack (x : Float) : Means (sign x) (magnitude x) x.toModel.unpack := by
  have hm : (@unpackMantissa Format.binary64 x.toModel.toBits.toBitVec).toNat =
      magnitude x % 2 ^ 52 := toNat_unpackMantissa _
  have he : (@unpackExponent Format.binary64 x.toModel.toBits.toBitVec).toNat =
      magnitude x / 2 ^ 52 := toNat_unpackExponent _
  have hlt := magnitude_lt x
  have ne_of {n : Nat} {a b : BitVec n} (hab : a ≠ b) : a.toNat ≠ b.toNat :=
    fun h => hab (BitVec.eq_of_toNat_eq h)
  unfold Float.Model.unpack UnpackedFloat.unpack
  simp only [ofBitVec_unpackSign]
  split
  · rename_i h
    rw [h] at he
    change 2047 = _ at he
    split
    · rename_i h'
      rw [h'] at hm
      change 0 = _ at hm
      exact .infinity (by omega)
    · rename_i h'
      have hz := ne_of h'
      rw [hm] at hz
      change _ ≠ 0 at hz
      exact .notANumber (by omega)
  · rename_i hinf
    have hinf := ne_of hinf
    rw [he] at hinf
    change _ ≠ 2047 at hinf
    split
    · rename_i h
      rw [h] at he
      change 0 = _ at he
      split
      · rename_i h'
        rw [h'] at hm
        change 0 = _ at hm
        exact .zero (by omega)
      · rename_i h'
        have hz := ne_of h'
        rw [hm] at hz
        change _ ≠ 0 at hz
        have hsmall : magnitude x < 2 ^ 52 := by omega
        have := Means.subnormal (s := sign x) (by omega) hsmall
        simp only [hm, h, Nat.mod_eq_of_lt hsmall]
        exact this
    · rename_i h
      have hz := ne_of h
      rw [he] at hz
      change _ ≠ 0 at hz
      have := Means.normal (s := sign x) (n := magnitude x) (magnitude x % 2 ^ 52)
        (magnitude x / 2 ^ 52) (by omega) (by omega) (by omega) (by omega) (by omega)
      have hor : 1 <<< 52 ||| magnitude x % 2 ^ 52 = 2 ^ 52 + magnitude x % 2 ^ 52 := by
        rw [← Nat.shiftLeft_add_eq_or_of_lt (Nat.mod_lt _ (by decide))]
        rfl
      simp only [BitVec.toNat_append, hm, he]
      convert this using 2
      · exact hor
      · rfl

theorem isNaN_iff (x : Float) : x.isNaN ↔ 2047 * 2 ^ 52 < magnitude x := by
  change x.toModel.unpack.isNaN ↔ _
  have h := means_unpack x
  generalize x.toModel.unpack = f at h
  cases h with
  | notANumber h => simpa [UnpackedFloat.isNaN] using h
  | _ => simp [UnpackedFloat.isNaN]; omega

/-- Exponents are compared before mantissas. -/
theorem compare_then_compare {m n : Nat} {e f a b : Int} (hlt : e < f → a < b) (hgt : f < e → b < a)
    (heq : e = f → a - b = m - n) : (compare e f).then (compare m n) = compare a b := by
  rcases lt_trichotomy e f with he | he | he
  · rw [compare_lt_iff_lt.2 he, compare_lt_iff_lt.2 (hlt he)]
    rfl
  · have hab := heq he
    rw [compare_eq_iff_eq.2 he]
    change compare m n = _
    rcases lt_trichotomy m n with hm | hm | hm
    · rw [compare_lt_iff_lt.2 hm, compare_lt_iff_lt.2 (by omega)]
    · rw [compare_eq_iff_eq.2 hm, compare_eq_iff_eq.2 (by omega)]
    · rw [compare_gt_iff_gt.2 hm, compare_gt_iff_gt.2 (by omega)]
  · rw [compare_gt_iff_gt.2 he, compare_gt_iff_gt.2 (hgt he)]
    rfl

theorem swap_compare_neg (a b : Int) : (compare a b).swap = compare (-a) (-b) := by
  rcases lt_trichotomy a b with h | h | h
  · rw [compare_lt_iff_lt.2 h, compare_gt_iff_gt.2 (by omega)]
    rfl
  · rw [compare_eq_iff_eq.2 h, compare_eq_iff_eq.2 (by omega)]
    rfl
  · rw [compare_gt_iff_gt.2 h, compare_lt_iff_lt.2 (by omega)]
    rfl

theorem Means.compare_finite {s t : Sign} {m n a b : Nat} {e f : Int} {ha : 0 < a} {hb : 0 < b}
    (h : Means s m (.finite s a e ha)) (h' : Means t n (.finite t b f hb)) :
    (compare e f).then (compare a b) = compare (m : Int) n := by
  cases h <;> cases h' <;> exact compare_then_compare (by omega) (by omega) (by omega)

/-- Comparing what two doubles say compares their signed magnitudes. -/
theorem Means.compare {s t : Sign} {m n : Nat} {f g : UnpackedFloat} (h : Means s m f)
    (h' : Means t n g) (hm : m ≤ 2047 * 2 ^ 52) (hn : n ≤ 2047 * 2 ^ 52) :
    f.compare g = some (compare (signed s m) (signed t n)) := by
  have hc := h
  have hc' := h'
  cases h <;> cases h' <;> cases s <;> cases t <;>
    first
    | omega
    | exact congrArg some (compare_lt_iff_lt.2 (by simp only [signed]; omega)).symm
    | exact congrArg some (compare_gt_iff_gt.2 (by simp only [signed]; omega)).symm
    | exact congrArg some (compare_eq_iff_eq.2 (by simp only [signed]; omega)).symm
    | exact congrArg some (hc.compare_finite hc')
    | exact congrArg some ((congrArg _ (hc.compare_finite hc')).trans (swap_compare_neg _ _))

theorem compare_unpack {x y : Float} (hx : x.isNaN = false) (hy : y.isNaN = false) :
    x.toModel.unpack.compare y.toModel.unpack = some (compare (place x) (place y)) := by
  have bound {z : Float} (hz : z.isNaN = false) : magnitude z ≤ 2047 * 2 ^ 52 := by
    rw [← Nat.not_lt, ← isNaN_iff, hz]
    decide
  exact (means_unpack x).compare (means_unpack y) (bound hx) (bound hy)

theorem compare_isNaN_left {x y : Float} (hx : x.isNaN = true) :
    x.toModel.unpack.compare y.toModel.unpack = none := by
  change x.toModel.unpack.isNaN = true at hx
  generalize x.toModel.unpack = f at hx
  cases f <;> first | rfl | cases hx

theorem compare_isNaN_right {x y : Float} (hy : y.isNaN = true) :
    x.toModel.unpack.compare y.toModel.unpack = none := by
  change y.toModel.unpack.isNaN = true at hy
  generalize y.toModel.unpack = g at hy
  cases g with
  | notANumber => cases x.toModel.unpack <;> rfl
  | _ => cases hy

theorem isNaN_eq_false_of_compare {x y : Float}
    (h : x.toModel.unpack.compare y.toModel.unpack ≠ none) : x.isNaN = false ∧ y.isNaN = false := by
  constructor
  · by_contra hx
    exact h (compare_isNaN_left (by simpa using hx))
  · by_contra hy
    exact h (compare_isNaN_right (by simpa using hy))

theorem le_iff_compare {x y : Float} :
    x ≤ y ↔ (x.toModel.unpack.compare y.toModel.unpack).any (·.isLE) := by
  change decide (x.toModel.unpack.le y.toModel.unpack = true) = true ↔ _
  rw [decide_eq_true_iff]
  rfl

theorem isNaN_eq_false_of_le {x y : Float} (h : x ≤ y) : x.isNaN = false ∧ y.isNaN = false := by
  rw [le_iff_compare] at h
  apply isNaN_eq_false_of_compare
  intro hnone
  rw [hnone] at h
  cases h

/-- Numbers are ordered by their places. -/
theorem le_iff_place_le {x y : Float} (hx : x.isNaN = false) (hy : y.isNaN = false) :
    x ≤ y ↔ place x ≤ place y := by
  rw [le_iff_compare, compare_unpack hx hy]
  change (compare (place x) (place y)).isLE = true ↔ _
  exact Int.isLE_compare

protected theorem le_trans {x y z : Float} (hxy : x ≤ y) (hyz : y ≤ z) : x ≤ z := by
  obtain ⟨hx, hy⟩ := isNaN_eq_false_of_le hxy
  obtain ⟨-, hz⟩ := isNaN_eq_false_of_le hyz
  have hfirst := (le_iff_place_le hx hy).1 hxy
  have hsecond := (le_iff_place_le hy hz).1 hyz
  exact (le_iff_place_le hx hz).2 (hfirst.trans hsecond)

theorem lt_iff_compare {x y : Float} :
    x < y ↔ x.toModel.unpack.compare y.toModel.unpack = some .lt := by
  change decide (x.toModel.unpack.lt y.toModel.unpack = true) = true ↔ _
  rw [decide_eq_true_iff, UnpackedFloat.lt, beq_iff_eq]

theorem lt_iff_place_lt {x y : Float} (hx : x.isNaN = false) (hy : y.isNaN = false) :
    x < y ↔ place x < place y := by
  rw [lt_iff_compare, compare_unpack hx hy, Option.some_inj, compare_lt_iff_lt]

protected theorem le_refl {x : Float} (hx : x.isNaN = false) : x ≤ x :=
  (le_iff_place_le hx hx).2 le_rfl

theorem isNaN_eq_false_of_lt {x y : Float} (h : x < y) : x.isNaN = false ∧ y.isNaN = false := by
  rw [lt_iff_compare] at h
  apply isNaN_eq_false_of_compare
  rw [h]
  exact Option.some_ne_none _

protected theorem le_of_lt {x y : Float} (h : x < y) : x ≤ y := by
  obtain ⟨hx, hy⟩ := isNaN_eq_false_of_lt h
  exact (le_iff_place_le hx hy).2 ((lt_iff_place_lt hx hy).1 h).le

theorem not_lt_iff_le {x y : Float} (hx : x.isNaN = false) (hy : y.isNaN = false) :
    ¬x < y ↔ y ≤ x := by
  rw [lt_iff_place_lt hx hy, le_iff_place_le hy hx, not_lt]

protected theorem lt_of_lt_of_le {x y z : Float} (hxy : x < y) (hyz : y ≤ z) : x < z := by
  obtain ⟨hx, hy⟩ := isNaN_eq_false_of_lt hxy
  obtain ⟨-, hz⟩ := isNaN_eq_false_of_le hyz
  have hfirst := (lt_iff_place_lt hx hy).1 hxy
  exact (lt_iff_place_lt hx hz).2 (hfirst.trans_le ((le_iff_place_le hy hz).1 hyz))

protected theorem lt_of_le_of_lt {x y z : Float} (hxy : x ≤ y) (hyz : y < z) : x < z := by
  obtain ⟨hx, hy⟩ := isNaN_eq_false_of_le hxy
  obtain ⟨-, hz⟩ := isNaN_eq_false_of_lt hyz
  have hfirst := (le_iff_place_le hx hy).1 hxy
  exact (lt_iff_place_lt hx hz).2 (hfirst.trans_lt ((lt_iff_place_lt hy hz).1 hyz))

/-- Above zero, doubles at the same place are the same. -/
theorem eq_of_place_eq {x y : Float} (h : place x = place y) (hpos : 0 < place y) : x = y := by
  have toNat_eq {z : Float} (hz : 0 < place z) : place z = z.toBits.toNat := by
    unfold place sign at hz ⊢
    split at hz
    · rename_i hlt
      rw [if_pos hlt, signed, magnitude, Nat.mod_eq_of_lt hlt]
    · simp only [signed] at hz
      omega
  have hx := toNat_eq (h ▸ hpos)
  have hy := toNat_eq hpos
  rw [← Float.toBits_inj, ← UInt64.toNat_inj]
  omega

end Parlance.Double
