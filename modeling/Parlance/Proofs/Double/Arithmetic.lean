import Parlance.Proofs.Double.Rounding

/-!
The arithmetic of doubles that are neither negative nor infinite. Main statements: `rounds_mul`,
`rounds_div` and `rounds_sub`, that a result is the double nearest to the exact one, and `Rounds.le`,
that results are in the order of the exact ones.
-/

namespace Parlance.Double

open Float.Model UnpackedFloat

/-- The least positive double. -/
def least : ℚ :=
  2 ^ (-1074 : Int)

/-- The number that a double stands for, its sign left aside. -/
def value (x : Float) : ℚ :=
  units (magnitude x) * least

/-- A double that is neither negative nor infinite. -/
structure Amount (x : Float) : Prop where
  place_nonneg : 0 ≤ place x
  finite : magnitude x < 2047 * 2 ^ 52

/-- A double that is nearest to a number, or infinity where the number is too large. -/
structure Rounds (v : ℚ) (x : Float) : Prop where
  exists_nearest : ∃ n, Nearest (v / least) n ∧ place x = (min n (2047 * 2 ^ 52) : Nat)
  isNaN : x.isNaN = false

variable {x y : Float} {v w : ℚ}

theorem isNaN_of_magnitude_le (h : magnitude x ≤ 2047 * 2 ^ 52) : x.isNaN = false := by
  by_contra hnan
  have hlt := (isNaN_iff x).1 (by simpa using hnan)
  omega

theorem place_eq_magnitude (h : 0 ≤ place x) : place x = magnitude x := by
  unfold place at h ⊢
  cases hs : sign x with
  | positive => rfl
  | negative =>
    rw [hs] at h
    simp only [signed] at h ⊢
    omega

theorem least_pos : 0 < least :=
  zpow_pos two_pos _

theorem zpow_div_least (e : Int) : (2 : ℚ) ^ e / least = 2 ^ (e + 1074) := by
  rw [least, zpow_neg, div_inv_eq_mul, zpow_add₀ two_ne_zero]

theorem value_nonneg (x : Float) : 0 ≤ value x :=
  mul_nonneg (Nat.cast_nonneg _) least_pos.le

theorem value_le_of_magnitude_le (h : magnitude x ≤ magnitude y) : value x ≤ value y := by
  have hunits : (units (magnitude x) : ℚ) ≤ units (magnitude y) := by
    exact_mod_cast units_strictMono.monotone h
  exact mul_le_mul_of_nonneg_right hunits least_pos.le

theorem value_eq {k r : Nat} (hr : r ≤ 2 ^ 53) (hk : k = 0 ∨ 2 ^ 52 ≤ r)
    (h : magnitude x = k * 2 ^ 52 + r) : value x = r * 2 ^ ((k : Int) - 1074) := by
  rw [value, h, units_mantissa hr hk, least, Int.sub_eq_add_neg, zpow_add₀ two_ne_zero,
    Nat.cast_mul, Nat.cast_pow, Nat.cast_ofNat, zpow_natCast, mul_assoc]

namespace Amount

theorem isNaN (h : Amount x) : x.isNaN = false :=
  isNaN_of_magnitude_le h.finite.le

theorem rounds (h : Amount x) : Rounds (value x) x := by
  refine ⟨⟨magnitude x, ?_, ?_⟩, h.isNaN⟩
  · rw [value, mul_div_cancel_right₀ _ least_pos.ne']
    exact nearest_units _
  · rw [min_eq_left h.finite.le]
    exact place_eq_magnitude h.place_nonneg

/-- What is not zero has a mantissa with all its bits, but in the lowest binade. -/
theorem unpack (h : Amount x) :
    (value x = 0 ∧ ∃ s, x.toModel.unpack = .zero s) ∨
      ∃ m e hm, x.toModel.unpack = .finite .positive m e hm ∧ (m : ℚ) * 2 ^ e = value x ∧
        m < 2 ^ 53 ∧ (2 ^ 52 ≤ m ∨ e = -1074) ∧ -1074 ≤ e := by
  have hfinite := h.finite
  have hsign : sign x = .positive ∨ magnitude x = 0 := by
    have hplace := h.place_nonneg
    unfold place at hplace
    cases hs : sign x with
    | positive => exact .inl rfl
    | negative =>
      rw [hs] at hplace
      simp only [signed] at hplace
      right
      omega
  have hmeans := means_unpack x
  generalize x.toModel.unpack = f at hmeans ⊢
  cases hmeans with
  | infinity hn => omega
  | notANumber hn => omega
  | zero hn =>
    left
    rw [value, hn, show units 0 = 0 by decide, Nat.cast_zero, zero_mul]
    exact ⟨rfl, _, rfl⟩
  | subnormal hn hlt =>
    right
    rw [hsign.resolve_right hn.ne']
    have hv := value_eq (x := x) (k := 0) (by omega) (.inl rfl) (Nat.zero_add _).symm
    rw [Nat.cast_zero, Int.zero_sub] at hv
    exact ⟨_, _, hn, rfl, hv.symm, by omega, .inr rfl, le_rfl⟩
  | normal m e hm he he' hn hp =>
    right
    rw [hsign.resolve_right (by omega)]
    obtain ⟨k, rfl⟩ : ∃ k, e = k + 1 := ⟨e - 1, by omega⟩
    have hmagnitude : magnitude x = k * 2 ^ 52 + (2 ^ 52 + m) := by
      rw [hn]
      ring
    have hv := value_eq (by omega) (.inr (Nat.le_add_right _ _)) hmagnitude
    rw [show (k : Int) - 1074 = (k + 1 : Nat) - 1075 by omega] at hv
    exact ⟨_, _, hp, rfl, hv.symm, by omega, .inl (Nat.le_add_right _ _), by omega⟩

end Amount

namespace Rounds

theorem of_packs {f : UnpackedFloat} {s : Sign} {n : Nat} (h : Packs f s (min n (2047 * 2 ^ 52)))
    (hn : Nearest (v / least) n) (hs : s = .positive ∨ n = 0) : Rounds v (.ofModel (pack f)) := by
  refine ⟨⟨n, hn, ?_⟩, isNaN_of_magnitude_le ?_⟩
  · rw [place, h.sign, h.magnitude]
    rcases hs with rfl | rfl
    · rfl
    · cases s <;> rfl
  · rw [h.magnitude]
    exact Nat.min_le_right _ _

theorem place_le (hv : Rounds v x) (hw : Rounds w y) (h : v ≤ w) : place x ≤ place y := by
  obtain ⟨a, ha, hx⟩ := hv.exists_nearest
  obtain ⟨b, hb, hy⟩ := hw.exists_nearest
  have hab := ha.mono hb (div_le_div_of_nonneg_right h least_pos.le)
  rw [hx, hy]
  exact_mod_cast min_le_min_right _ hab

/-- Results are in the order of the exact ones. -/
theorem le (hv : Rounds v x) (hw : Rounds w y) (h : v ≤ w) : x ≤ y :=
  (le_iff_place_le hv.isNaN hw.isNaN).2 (hv.place_le hw h)

theorem congr (h : Rounds v x) (hplace : place y = place x) (hy : y.isNaN = false) : Rounds v y := by
  obtain ⟨n, hn, hx⟩ := h.exists_nearest
  exact ⟨⟨n, hn, hplace.trans hx⟩, hy⟩

theorem place_nonneg (h : Rounds v x) : 0 ≤ place x := by
  obtain ⟨n, -, hx⟩ := h.exists_nearest
  rw [hx]
  exact Int.natCast_nonneg _

theorem magnitude_le (hv : Rounds v x) (hw : Rounds w y) (h : v ≤ w) : magnitude x ≤ magnitude y := by
  have hle := hv.place_le hw h
  rw [place_eq_magnitude hv.place_nonneg, place_eq_magnitude hw.place_nonneg] at hle
  exact_mod_cast hle

theorem value_le (hv : Rounds v x) (hw : Rounds w y) (h : v ≤ w) : value x ≤ value y :=
  value_le_of_magnitude_le (hv.magnitude_le hw h)

theorem amount (hv : Rounds v x) (hy : Amount y) (h : v ≤ value y) : Amount x :=
  ⟨hv.place_nonneg, (hv.magnitude_le hy.rounds h).trans_lt hy.finite⟩

theorem zero {s : Sign} : Rounds 0 (.ofModel (pack (.zero s))) := by
  apply of_packs (n := 0) (s := s) (packs_zero s) _ (.inr rfl)
  rw [zero_div]
  exact nearest_units 0

end Rounds

theorem tells_exact (m : Nat) : Tells (.ofMantissaAndAccuracy m .exact) m :=
  rfl

theorem rounds_mul (hx : Amount x) (hy : Amount y) : Rounds (value x * value y) (x * y) := by
  change Rounds _ (.ofModel (pack (UnpackedFloat.mul _ x.toModel.unpack y.toModel.unpack)))
  rcases hx.unpack with ⟨hx0, s, hxu⟩ | ⟨m, e, hm, hxu, hxv, -, hfull, -⟩
  · rw [hx0, zero_mul, hxu]
    rcases hy.unpack with ⟨-, t, hyu⟩ | ⟨n, f, hn, hyu, -⟩ <;> rw [hyu] <;> exact .zero
  · rw [hxu]
    rcases hy.unpack with ⟨hy0, t, hyu⟩ | ⟨n, f, hn, hyu, hyv, -, hfull', -⟩
    · rw [hyu, hy0, mul_zero]
      exact .zero
    · rw [hyu]
      have hbits : 2 ^ 52 ≤ m * n ∨ e + f ≤ -1074 := by
        rcases hfull with hfull | he
        · exact .inl (hfull.trans (Nat.le_mul_of_pos_right m hn))
        · rcases hfull' with hfull' | hf
          · exact .inl (hfull'.trans (Nat.le_mul_of_pos_left n hm))
          · right
            omega
      obtain ⟨k, hk, hpacks⟩ :=
        packs_roundWithAccuracy (.positive * .positive) (tells_exact (m * n)) hbits
      have hvalue : ((m * n : Nat) : ℚ) * 2 ^ (e + f + 1074) = value x * value y / least := by
        rw [← hxv, ← hyv, ← zpow_div_least, zpow_add₀ two_ne_zero]
        push_cast
        ring
      rw [hvalue] at hk
      exact .of_packs hpacks hk (.inl rfl)

/-- A double that is not negative, times one that is larger. -/
theorem mul_le_mul_right {z : Float} (hx : Amount x) (hy : Amount y) (hz : Amount z) (h : x ≤ y) :
    x * z ≤ y * z := by
  have hplace := (le_iff_place_le hx.isNaN hy.isNaN).1 h
  rw [place_eq_magnitude hx.place_nonneg, place_eq_magnitude hy.place_nonneg] at hplace
  have hvalue := value_le_of_magnitude_le (x := x) (y := y) (by exact_mod_cast hplace)
  exact (rounds_mul hx hz).le (rounds_mul hy hz) (mul_le_mul_of_nonneg_right hvalue (value_nonneg z))

/-! Quotients. -/

theorem tells_fraction (m : Nat) {d : Nat} (hd : 0 < d) :
    Tells (.ofMantissaAndAccuracy (m / d) (accuracyOfFraction (m % d) d)) (m / d) := by
  have hd' : (0 : ℚ) < d := by exact_mod_cast hd
  have hlt : ((m % d : Nat) : ℚ) < d := by exact_mod_cast Nat.mod_lt m hd
  have hsum : (m : ℚ) = d * (m / d : Nat) + (m % d : Nat) := by
    exact_mod_cast (Nat.div_add_mod m d).symm
  have hm : (m : ℚ) / d = (m / d : Nat) + (m % d : Nat) / d := by
    rw [div_eq_iff hd'.ne', add_mul, div_mul_cancel₀ _ hd'.ne', hsum]
    ring
  have hone : ((m % d : Nat) : ℚ) / d < 1 := (div_lt_one hd').2 hlt
  rw [hm, accuracyOfFraction]
  split
  · rename_i hzero
    rw [hzero, Nat.cast_zero, zero_div, add_zero]
    exact tells_exact _
  · rename_i hne
    have hpos : 0 < ((m % d : Nat) : ℚ) / d := by
      apply div_pos _ hd'
      exact_mod_cast Nat.pos_of_ne_zero hne
    rcases lt_trichotomy (2 * (m % d)) d with h | h | h
    · have hhalf : ((m % d : Nat) : ℚ) / d < 1 / 2 := by
        rw [div_lt_div_iff₀ hd' two_pos]
        exact_mod_cast (by omega : m % d * 2 < 1 * d)
      rw [compare_lt_iff_lt.2 h]
      constructor <;> linarith
    · have hhalf : ((m % d : Nat) : ℚ) / d = 1 / 2 := by
        rw [div_eq_div_iff hd'.ne' two_ne_zero]
        exact_mod_cast (by omega : m % d * 2 = 1 * d)
      rw [compare_eq_iff_eq.2 h, hhalf]
      rfl
    · have hhalf : 1 / 2 < ((m % d : Nat) : ℚ) / d := by
        rw [div_lt_div_iff₀ two_pos hd']
        exact_mod_cast (by omega : 1 * d < m % d * 2)
      rw [compare_gt_iff_gt.2 h]
      constructor <;> linarith

/-- The mantissa of a quotient has all its bits, but in the lowest binade. -/
theorem exists_divCore {m n : Nat} (e f : Int) (hm : 0 < m) (hn : 0 < n) :
    ∃ (j : Nat) (t : Int), e - f = t + j ∧ (2 ^ 52 ≤ m <<< j / n ∨ t ≤ -1074) ∧
      divCore Format.binary64 m e n f =
        (m <<< j / n, t, accuracyOfFraction (m <<< j % n) n) := by
  have htarget : Format.binary64.targetExponent (totalExponent m e - totalExponent n f) =
      max (m.log2 - n.log2 + (e - f) - 53) (-1074) := by
    have hbits : ((Format.binary64.mantissaBits : Nat) : Int) = 53 := rfl
    have hmin : Format.binary64.minExponent = -1074 := rfl
    rw [Format.targetExponent, totalExponent, totalExponent, hbits, hmin]
    omega
  refine ⟨(e - f - min (e - f) (max (m.log2 - n.log2 + (e - f) - 53) (-1074))).toNat,
    min (e - f) (max (m.log2 - n.log2 + (e - f) - 53) (-1074)), by omega, ?_, ?_⟩
  · generalize hj : (e - f - min (e - f) (max (m.log2 - n.log2 + (e - f) - 53) (-1074))).toNat = j
    by_cases hlow : min (e - f) (max (m.log2 - n.log2 + (e - f) - 53) (-1074)) ≤ -1074
    · exact .inr hlow
    · left
      rw [Nat.le_div_iff_mul_le hn, Nat.shiftLeft_eq]
      calc 2 ^ 52 * n ≤ 2 ^ 52 * 2 ^ (n.log2 + 1) := Nat.mul_le_mul_left _ Nat.lt_log2_self.le
        _ = 2 ^ (53 + n.log2) := by rw [← pow_add]; congr 1; omega
        _ ≤ 2 ^ (m.log2 + j) := Nat.pow_le_pow_right two_pos (by omega)
        _ = 2 ^ m.log2 * 2 ^ j := pow_add _ _ _
        _ ≤ m * 2 ^ j := Nat.mul_le_mul_right _ (Nat.log2_self_le hm.ne')
  · rw [divCore, htarget]

theorem packs_div (s t : Sign) {m n : Nat} (e f : Int) (hm : 0 < m) (hn : 0 < n) :
    ∃ k, Nearest ((m : ℚ) * 2 ^ e / (n * 2 ^ f) / least) k ∧
      Packs (UnpackedFloat.div Format.binary64 (.finite s m e hm) (.finite t n f hn)) (s / t)
        (min k (2047 * 2 ^ 52)) := by
  obtain ⟨j, u, hj, hbits, hcore⟩ := exists_divCore e f hm hn
  obtain ⟨k, hk, hpacks⟩ := packs_roundWithAccuracy (s / t) (tells_fraction (m <<< j) hn) hbits
  have hvalue : ((m <<< j : Nat) : ℚ) / n * 2 ^ (u + 1074) = m * 2 ^ e / (n * 2 ^ f) / least := by
    rw [← zpow_div_least, show u = e - f - j by omega, zpow_sub₀ two_ne_zero, zpow_sub₀ two_ne_zero,
      zpow_natCast, Nat.shiftLeft_eq]
    push_cast
    field_simp
  rw [hvalue] at hk
  refine ⟨k, hk, ?_⟩
  rw [UnpackedFloat.div, hcore]
  exact hpacks

theorem rounds_div (hx : Amount x) (hy : Amount y) (hpos : 0 < value y) :
    Rounds (value x / value y) (x / y) := by
  change Rounds _ (.ofModel (pack (UnpackedFloat.div _ x.toModel.unpack y.toModel.unpack)))
  rcases hy.unpack with ⟨hy0, -⟩ | ⟨n, f, hn, hyu, hyv, -⟩
  · exact absurd hy0 hpos.ne'
  rw [hyu]
  rcases hx.unpack with ⟨hx0, s, hxu⟩ | ⟨m, e, hm, hxu, hxv, -⟩
  · rw [hx0, zero_div, hxu]
    exact .zero
  · obtain ⟨k, hk, hpacks⟩ := packs_div .positive .positive e f hm hn
    rw [hxv, hyv] at hk
    rw [hxu]
    exact .of_packs hpacks hk (.inl rfl)

/-! Differences. -/

theorem cast_shiftLeft_mul (m : Nat) {e t : Int} (h : t ≤ e) :
    ((m <<< (e - t).toNat : Nat) : ℚ) * 2 ^ t = m * 2 ^ e := by
  obtain ⟨j, hj⟩ : ∃ j : Nat, e = t + j := ⟨(e - t).toNat, by omega⟩
  rw [hj, show (t + j - t).toNat = j by omega, zpow_add₀ two_ne_zero, Nat.shiftLeft_eq, zpow_natCast]
  push_cast
  ring

theorem packs_round (s : Sign) {m : Nat} (hm : 0 < m) (e : Int) :
    ∃ n, Nearest (m * 2 ^ (e + 1074)) n ∧
      Packs (UnpackedFloat.round Format.binary64 s m e) s (min n (2047 * 2 ^ 52)) := by
  generalize ht : max (m.log2 + e - 52) (-1074) = t
  have hbits : 2 ^ 52 ≤ m <<< (e - t).toNat ∨ e - (e - t).toNat ≤ -1074 := by
    by_cases hlow : e - (e - t).toNat ≤ -1074
    · exact .inr hlow
    · left
      rw [Nat.shiftLeft_eq]
      calc 2 ^ 52 ≤ 2 ^ (m.log2 + (e - t).toNat) := Nat.pow_le_pow_right two_pos (by omega)
        _ = 2 ^ m.log2 * 2 ^ (e - t).toNat := pow_add _ _ _
        _ ≤ m * 2 ^ (e - t).toNat := Nat.mul_le_mul_right _ (Nat.log2_self_le hm.ne')
  obtain ⟨n, hn, hpacks⟩ := packs_roundWithAccuracy s (tells_exact (m <<< (e - t).toNat)) hbits
  have hvalue : ((m <<< (e - t).toNat : Nat) : ℚ) * 2 ^ (e - (e - t).toNat + 1074) =
      m * 2 ^ (e + 1074) := by
    rw [zpow_add₀ two_ne_zero, zpow_add₀ two_ne_zero e, zpow_sub₀ two_ne_zero, zpow_natCast,
      Nat.shiftLeft_eq]
    generalize (2 : ℚ) ^ (1074 : Int) = c
    push_cast
    field_simp
  rw [hvalue] at hn
  refine ⟨n, hn, ?_⟩
  rw [UnpackedFloat.round, target_eq, ht, decreaseExponent]
  exact hpacks

theorem Packs.negative {f : UnpackedFloat} {n : Nat} (h : Packs f .negative n)
    (hn : n ≤ 2047 * 2 ^ 52) :
    place (.ofModel (pack f)) ≤ 0 ∧ (Float.ofModel (pack f)).isNaN = false := by
  rw [place, h.sign, h.magnitude]
  exact ⟨Int.neg_nonpos_of_nonneg (Int.natCast_nonneg _), isNaN_of_magnitude_le (h.magnitude ▸ hn)⟩

theorem exists_packs_unpack {m : Nat} {e : Int} (hm : m < 2 ^ 53) (hfull : 2 ^ 52 ≤ m ∨ e = -1074)
    (he : -1074 ≤ e) (hpos : 0 < m) (s : Sign) :
    ∃ n, Nearest (m * 2 ^ e / least) n ∧ Packs (.finite s m e hpos) s (min n (2047 * 2 ^ 52)) := by
  obtain ⟨k, rfl⟩ : ∃ k : Nat, e = k - 1074 := ⟨(e + 1074).toNat, by omega⟩
  have hk : k = 0 ∨ 2 ^ 52 ≤ m := by omega
  refine ⟨k * 2 ^ 52 + m, ?_, packs_finite s hm hk hpos⟩
  have hvalue : (m : ℚ) * 2 ^ ((k : Int) - 1074) / least = units (k * 2 ^ 52 + m) := by
    rw [units_mantissa hm.le hk, mul_div_assoc, zpow_div_least, Int.sub_add_cancel, zpow_natCast]
    push_cast
    rfl
  rw [hvalue]
  exact nearest_units _

theorem sub_finite {m n : Nat} {e f : Int} (hm : 0 < m) (hn : 0 < n) :
    UnpackedFloat.sub Format.binary64 (.finite .positive m e hm) (.finite .positive n f hn) =
      normalize Format.binary64
        ((m <<< (e - min e f).toNat : Nat) - (n <<< (f - min e f).toNat : Nat) : Int) (min e f)
        .positive :=
  rfl

theorem normalize_zero (t : Int) :
    UnpackedFloat.normalize Format.binary64 0 t .positive = .zero .positive :=
  rfl

theorem normalize_natCast {n : Nat} (hn : 0 < n) (t : Int) :
    UnpackedFloat.normalize Format.binary64 (n : Int) t .positive =
      UnpackedFloat.round Format.binary64 .positive n t := by
  rw [UnpackedFloat.normalize, compare_gt_iff_gt.2 (by omega), Int.toNat_natCast]

theorem normalize_sub_of_lt {a b : Nat} (h : a < b) (t : Int) :
    UnpackedFloat.normalize Format.binary64 ((a : Int) - b) t .positive =
      UnpackedFloat.round Format.binary64 .negative (b - a) t := by
  have hnat : (-((a : Int) - b)).toNat = b - a := by omega
  rw [UnpackedFloat.normalize, compare_lt_iff_lt.2 (by omega), hnat]

/-- The difference of two amounts, of either sign. -/
theorem rounds_sub (hx : Amount x) (hy : Amount y) :
    (value y ≤ value x ∧ Rounds (value x - value y) (x - y)) ∨
      (value x < value y ∧ place (x - y) ≤ 0 ∧ (x - y).isNaN = false) := by
  change (_ ∧ Rounds _ (.ofModel (pack (UnpackedFloat.sub _ x.toModel.unpack y.toModel.unpack)))) ∨
    (_ ∧ place (.ofModel (pack (UnpackedFloat.sub _ x.toModel.unpack y.toModel.unpack))) ≤ 0 ∧
      (Float.ofModel (pack (UnpackedFloat.sub _ x.toModel.unpack y.toModel.unpack))).isNaN = false)
  rcases hx.unpack with ⟨hx0, s, hxu⟩ | ⟨m, e, hm, hxu, hxv, hm', hfull, he⟩ <;>
    rcases hy.unpack with ⟨hy0, t, hyu⟩ | ⟨n, f, hn, hyu, hyv, hn', hfull', hf⟩ <;>
    rw [hxu, hyu]
  · left
    rw [hx0, hy0, sub_zero, UnpackedFloat.sub]
    refine ⟨le_rfl, ?_⟩
    split <;> exact .zero
  · right
    obtain ⟨k, -, hpacks⟩ := exists_packs_unpack hn' hfull' hf hn .negative
    rw [hx0, ← hyv]
    exact ⟨by positivity, hpacks.negative (Nat.min_le_right _ _)⟩
  · left
    obtain ⟨k, hk, hpacks⟩ := exists_packs_unpack hm' hfull he hm .positive
    rw [hy0, sub_zero]
    rw [hxv] at hk
    exact ⟨value_nonneg x, .of_packs hpacks hk (.inl rfl)⟩
  · rw [sub_finite]
    have ha := cast_shiftLeft_mul m (min_le_left e f)
    have hb := cast_shiftLeft_mul n (min_le_right e f)
    rw [hxv] at ha
    rw [hyv] at hb
    rw [← ha, ← hb]
    generalize min e f = t
    generalize m <<< (e - t).toNat = a
    generalize n <<< (f - t).toNat = b
    have hpow : (0 : ℚ) < 2 ^ t := zpow_pos two_pos t
    rcases lt_trichotomy a b with hab | rfl | hab
    · right
      obtain ⟨k, -, hpacks⟩ := packs_round .negative (Nat.sub_pos_of_lt hab) t
      rw [normalize_sub_of_lt hab]
      exact ⟨mul_lt_mul_of_pos_right (by exact_mod_cast hab) hpow,
        hpacks.negative (Nat.min_le_right _ _)⟩
    · left
      rw [Int.sub_self, normalize_zero, sub_self]
      exact ⟨le_rfl, .zero⟩
    · left
      obtain ⟨k, hk, hpacks⟩ := packs_round .positive (Nat.sub_pos_of_lt hab) t
      rw [← Int.ofNat_sub hab.le, normalize_natCast (Nat.sub_pos_of_lt hab)]
      rw [Nat.cast_sub hab.le, ← zpow_div_least, ← mul_div_assoc, sub_mul] at hk
      exact ⟨mul_le_mul_of_nonneg_right (by exact_mod_cast hab.le) hpow.le,
        .of_packs hpacks hk (.inl rfl)⟩

/-! Whole numbers. -/

theorem rounds_ofNat (n : Nat) : Rounds n (.ofModel (.ofNat n)) := by
  change Rounds _ (.ofModel (pack (UnpackedFloat.normalize Format.binary64 (n : Int) 0 .positive)))
  rcases Nat.eq_zero_or_pos n with rfl | hn
  · exact .zero
  · obtain ⟨k, hk, hpacks⟩ := packs_round .positive hn 0
    rw [normalize_natCast hn]
    rw [← zpow_div_least, zpow_zero, mul_one_div] at hk
    exact .of_packs hpacks hk (.inl rfl)

theorem value_one : value 1.0 = 1 := by
  rw [value_eq (k := 1022) (r := 2 ^ 52) (by decide) (.inr le_rfl) (by decide)]
  norm_num

theorem amount_one : Amount 1.0 :=
  ⟨by decide, by decide⟩

/-- The first whole number that doubles cannot tell from the next one. -/
def twoPow53 : Float :=
  Float.ofBits 0x4340000000000000

theorem amount_twoPow53 : Amount twoPow53 :=
  ⟨by decide, by decide⟩

theorem value_twoPow53 : value twoPow53 = 2 ^ 53 := by
  rw [value_eq (k := 1075) (r := 2 ^ 52) (by decide) (.inr le_rfl) (by decide)]
  norm_num

theorem Rounds.amount_of_lt {n : Nat} (h : Rounds n x) (hn : n < 2 ^ 53) : Amount x := by
  apply h.amount amount_twoPow53
  rw [value_twoPow53]
  exact_mod_cast hn.le

theorem rounds_toUInt64 {n : Nat} (hn : n < 2 ^ 53) : Rounds n n.toUInt64.toFloat := by
  have hnat : n.toUInt64.toNat = n :=
    UInt64.toNat_ofNat_of_lt' (hn.trans (by decide : 2 ^ 53 < UInt64.size))
  have h := rounds_ofNat n.toUInt64.toNat
  rw [hnat] at h
  change Rounds n (.ofModel (.ofNat n.toUInt64.toNat))
  rwa [hnat]

/-- A whole number that fits a mantissa is turned into the nearest double. -/
theorem rounds_toFloat {n : Nat} (hn : n < 2 ^ 53) : Rounds n n.toFloat := by
  have htimes : n.toFloat = n.toUInt64.toFloat * Float.ofBits 0x3FF0000000000000 := by
    change Float.ofScientific n false 0 = _
    rw [Float.ofScientific, dif_pos ⟨hn, by decide⟩]
    rfl
  have hround := rounds_toUInt64 hn
  have hamount := hround.amount_of_lt hn
  have hproduct := rounds_mul hamount amount_one
  rw [value_one, mul_one] at hproduct
  rw [htimes]
  exact hround.congr (le_antisymm (hproduct.place_le hamount.rounds le_rfl)
    (hamount.rounds.place_le hproduct le_rfl)) hproduct.isNaN

end Parlance.Double
