import Parlance.Proofs.Double.Arithmetic

/-!
The negative zero, which the order of bits puts before zero though both are one number. Main statements:
`PositiveZero.add` and `PositiveZero.sub`, that adding to a number or taking off from it gives the
negative zero only where that number is the negative zero.
-/

namespace Parlance.Double

open Float.Model UnpackedFloat

/-- A double that is not the negative zero. -/
def PositiveZero (x : Float) : Prop :=
  magnitude x = 0 → sign x = .positive

variable {x y : Float}

theorem positiveZero_of_packs {f : UnpackedFloat} {s : Sign} {n : Nat} (h : Packs f s n)
    (hs : s = .positive ∨ 0 < n) : PositiveZero (.ofModel (pack f)) := by
  intro hzero
  rw [h.magnitude] at hzero
  rw [h.sign]
  exact hs.resolve_right (by omega)

theorem positiveZero_notANumber : PositiveZero (.ofModel (pack .notANumber)) :=
  fun h => absurd h (by decide)

theorem positiveZero_infinity (s : Sign) : PositiveZero (.ofModel (pack (.infinity s))) := by
  cases s <;> exact fun h => absurd h (by decide)

theorem positiveZero_zero : PositiveZero (.ofModel (pack (.zero .positive))) :=
  positiveZero_of_packs (packs_zero .positive) (.inl rfl)

/-- What is not smaller than the least positive double is not rounded to zero. -/
theorem Nearest.pos {v : ℚ} {n : Nat} (h : Nearest v n) (hv : 1 ≤ v) : 0 < n := by
  have hone : Nearest ((units 1 : Nat) : ℚ) 1 := nearest_units 1
  apply hone.mono h
  rw [show units 1 = 1 by decide, Nat.cast_one]
  exact hv

theorem positiveZero_round (s : Sign) {m : Nat} (hm : 0 < m) {e : Int} (he : -1074 ≤ e) :
    PositiveZero (.ofModel (pack (UnpackedFloat.round Format.binary64 s m e))) := by
  obtain ⟨n, hn, hpacks⟩ := packs_round s hm e
  have hvalue : (1 : ℚ) ≤ m * 2 ^ (e + 1074) := by
    have hm' : (1 : ℚ) ≤ m := by exact_mod_cast hm
    have hpow : (1 : ℚ) ≤ 2 ^ (e + 1074) := one_le_zpow₀ one_le_two (by omega)
    exact one_le_mul_of_one_le_of_one_le hm' hpow
  have hpos := hn.pos hvalue
  exact positiveZero_of_packs hpacks (.inr (by omega))

theorem positiveZero_normalize (z : Int) {e : Int} (he : -1074 ≤ e) :
    PositiveZero (.ofModel (pack (UnpackedFloat.normalize Format.binary64 z e .positive))) := by
  rcases lt_trichotomy z 0 with hz | rfl | hz
  · rw [UnpackedFloat.normalize, compare_lt_iff_lt.2 hz]
    exact positiveZero_round .negative (by omega) he
  · exact positiveZero_zero
  · rw [UnpackedFloat.normalize, compare_gt_iff_gt.2 hz]
    exact positiveZero_round .positive (by omega) he

namespace Means

variable {s t : Sign} {n k m : Nat} {e : Int} {hm : 0 < m} {f g : UnpackedFloat}

theorem exponent_ge (h : Means s n (.finite t m e hm)) : -1074 ≤ e := by
  cases h <;> omega

theorem positiveZero (h : Means s n (.finite t m e hm)) :
    PositiveZero (.ofModel (pack (.finite t m e hm))) := by
  cases h with
  | subnormal hpos hlt =>
    have hpacks := packs_finite s (k := 0) (by omega) (.inl rfl) hpos
    exact positiveZero_of_packs hpacks (.inr (by omega))
  | normal a b ha hb hb' hn hpos =>
    obtain ⟨k, rfl⟩ : ∃ k, b = k + 1 := ⟨b - 1, by omega⟩
    have hpacks := packs_finite s (k := k) (by omega) (.inr (Nat.le_add_right _ a)) hpos
    rw [show ((k + 1 : Nat) : Int) - 1075 = k - 1074 by omega]
    exact positiveZero_of_packs hpacks (.inr (by omega))

theorem neg (h : Means s n f) : Means (-s) n f.neg := by
  cases h with
  | infinity h => exact .infinity h
  | notANumber h => exact .notANumber h
  | zero h => exact .zero h
  | subnormal hn h => exact .subnormal hn h
  | normal m e hm he he' h hp => exact .normal m e hm he he' h hp

theorem positiveZero_add (hf : Means s n f) (hs : n = 0 → s = .positive) (hg : Means t k g) :
    PositiveZero (.ofModel (pack (UnpackedFloat.add Format.binary64 f g))) := by
  cases f with
  | notANumber => exact positiveZero_notANumber
  | infinity r =>
    cases g with
    | notANumber => exact positiveZero_notANumber
    | infinity r' =>
      rw [UnpackedFloat.add]
      split
      · exact positiveZero_infinity r
      · exact positiveZero_notANumber
    | zero r' => exact positiveZero_infinity r
    | finite r' m e hm => exact positiveZero_infinity r
  | zero r =>
    obtain rfl : r = .positive := by
      cases hf with
      | zero hn => exact hs hn
    cases g with
    | notANumber => exact positiveZero_notANumber
    | infinity r' => exact positiveZero_infinity r'
    | zero r' => cases r' <;> exact positiveZero_zero
    | finite r' m e hm => exact hg.positiveZero
  | finite r m e hm =>
    cases g with
    | notANumber => exact positiveZero_notANumber
    | infinity r' => exact positiveZero_infinity r'
    | zero r' => exact hf.positiveZero
    | finite r' m' e' hm' => exact positiveZero_normalize _ (le_min hf.exponent_ge hg.exponent_ge)

end Means

theorem unpacked_sub_eq (f g : UnpackedFloat) :
    UnpackedFloat.sub Format.binary64 f g = UnpackedFloat.add Format.binary64 f g.neg := by
  have happly (s : Sign) (m : Nat) : (-s).apply (m : Int) = -s.apply (m : Int) := by
    cases s with
    | positive => rfl
    | negative => exact (Int.neg_neg _).symm
  cases f <;> cases g <;> try rfl
  simp only [UnpackedFloat.sub, UnpackedFloat.add, UnpackedFloat.neg, happly, Int.sub_eq_add_neg]

theorem PositiveZero.add (hx : PositiveZero x) : PositiveZero (x + y) :=
  (means_unpack x).positiveZero_add hx (means_unpack y)

theorem PositiveZero.sub (hx : PositiveZero x) : PositiveZero (x - y) := by
  change PositiveZero (.ofModel (pack (UnpackedFloat.sub _ x.toModel.unpack y.toModel.unpack)))
  rw [unpacked_sub_eq]
  exact (means_unpack x).positiveZero_add hx (means_unpack y).neg

end Parlance.Double
