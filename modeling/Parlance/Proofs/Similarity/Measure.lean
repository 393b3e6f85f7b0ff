import Parlance.Proofs.Double.Error
import Parlance.Proofs.Similarity.Distance
import Parlance.Proofs.Similarity.Score
import Parlance.Proofs.Text.Casing

/-!
Similarity as an exact fraction. Main statement: `similarity_measure`, that it is a symmetric measure from
zero to one of the least number of edits, that only texts equal in lower case are quite alike, and that the
double which is told hardly differs from it.
-/

namespace Parlance

open Double EditDistance

namespace Comparison

variable {c : Comparison} {a b : String}

/-- One minus the share of edits. -/
def fraction (c : Comparison) : ℚ :=
  if c.length = 0 then 1 else 1 - c.distance / c.length

theorem fraction_nonneg (h : c.distance ≤ c.length) : 0 ≤ c.fraction := by
  unfold fraction
  split
  · exact zero_le_one
  · exact sub_nonneg.2 (div_le_one_of_le₀ (by exact_mod_cast h) (Nat.cast_nonneg _))

theorem fraction_le_one (c : Comparison) : c.fraction ≤ 1 := by
  unfold fraction
  split
  · exact le_rfl
  · exact sub_le_self 1 (div_nonneg (Nat.cast_nonneg _) (Nat.cast_nonneg _))

theorem fraction_eq_one_iff (h : c.length ≠ 0) : c.fraction = 1 ↔ c.distance = 0 := by
  have hlength : (c.length : ℚ) ≠ 0 := Nat.cast_ne_zero.2 h
  rw [fraction, if_neg h, sub_eq_self, div_eq_zero_iff, or_iff_left hlength, Nat.cast_eq_zero]

theorem ofTexts_comm (a b : String) : ofTexts a b = ofTexts b a := by
  unfold ofTexts
  dsimp only
  rw [editDistance_comm, max_comm]

/-- The quotient and the difference are rounded by no more than half the distance of the doubles just below
one each. -/
theorem abs_value_score_sub_le (hle : c.distance ≤ c.length) (hn : c.length < 2 ^ 53) :
    |value c.score - c.fraction| ≤ 2 ^ (-53 : Int) := by
  unfold score fraction
  split
  · rw [value_one, sub_self, abs_zero]
    positivity
  · rename_i hlength
    have hpos : 0 < c.length := Nat.pos_of_ne_zero hlength
    have hdistance : value c.distance.toFloat = c.distance := (rounds_toFloat (by omega)).value_eq (by omega)
    have hwhole : value c.length.toFloat = c.length := (rounds_toFloat hn).value_eq hn
    have hquotient := rounds_div_toFloat hle hpos (by omega)
    have hshare := share_div_toFloat hle hpos (by omega)
    have hexact : (0 : ℚ) ≤ c.distance / c.length ∧ (c.distance : ℚ) / c.length ≤ 1 :=
      ⟨by positivity, div_le_one_of_le₀ (by exact_mod_cast hle) (Nat.cast_nonneg _)⟩
    rw [hdistance, hwhole] at hquotient
    have hdivided := hquotient.abs_sub_le hexact.1 hexact.2
    have hsubtracted := hshare.rounds_one_sub.abs_sub_le (by linarith [hshare.value_le])
      (by linarith [value_nonneg (c.distance.toFloat / c.length.toFloat)])
    have hhalves : (2 : ℚ) ^ (-53 : Int) = 2 ^ (-54 : Int) + 2 ^ (-54 : Int) := by norm_num
    rw [hhalves]
    rw [abs_le] at hdivided hsubtracted ⊢
    constructor <;> linarith

end Comparison

/-- Similarity before any rounding. -/
def exactSimilarity (a b : String) : ℚ :=
  if a.isEmpty || b.isEmpty then 0 else (Comparison.ofTexts a b).fraction

variable {a b : String}

theorem distance_ofTexts (a b : String) : (Comparison.ofTexts a b).distance =
    editDistance (Unicode.lowercase a.toList) (Unicode.lowercase b.toList) := by
  unfold Comparison.ofTexts
  dsimp only

theorem length_ofTexts_ne_zero (ha : a ≠ "") : (Comparison.ofTexts a b).length ≠ 0 := by
  rw [length_ofTexts]
  intro hzero
  have hlower : Text.lowercase a = "" := by
    rw [Text.lowercase, List.length_eq_zero_iff.1 (Nat.max_eq_zero_iff.1 hzero).1]
  exact ha (Text.lowercase_eq_empty_iff.1 hlower)

theorem similarity_comm (a b : String) : similarity a b = similarity b a := by
  unfold similarity
  rw [Bool.or_comm, Comparison.ofTexts_comm]

theorem exactSimilarity_comm (a b : String) : exactSimilarity a b = exactSimilarity b a := by
  unfold exactSimilarity
  rw [Bool.or_comm, Comparison.ofTexts_comm]

theorem exactSimilarity_nonneg (a b : String) : 0 ≤ exactSimilarity a b := by
  unfold exactSimilarity
  split
  · exact le_rfl
  · exact Comparison.fraction_nonneg (distance_ofTexts_le a b)

theorem exactSimilarity_le_one (a b : String) : exactSimilarity a b ≤ 1 := by
  unfold exactSimilarity
  split
  · exact zero_le_one
  · exact Comparison.fraction_le_one _

theorem isEmpty_or_isEmpty_iff : (a.isEmpty || b.isEmpty) = true ↔ a = "" ∨ b = "" := by
  rw [Bool.or_eq_true, String.isEmpty_iff, String.isEmpty_iff]

theorem exactSimilarity_of_ne (ha : a ≠ "") (hb : b ≠ "") :
    exactSimilarity a b = (Comparison.ofTexts a b).fraction := by
  rw [exactSimilarity, if_neg]
  rw [isEmpty_or_isEmpty_iff]
  exact not_or.2 ⟨ha, hb⟩

theorem abs_value_similarity_sub_le (ha : Measured a) (hb : Measured b) :
    |value (similarity a b) - exactSimilarity a b| ≤ 2 ^ (-53 : Int) := by
  unfold similarity exactSimilarity
  split
  · rw [value_zero, sub_self, abs_zero]
    positivity
  · apply Comparison.abs_value_score_sub_le (distance_ofTexts_le a b)
    rw [length_ofTexts]
    exact max_lt ha hb

/-- The fraction counts the least number of edits in the longer text, both in lower case. -/
theorem exists_isLeast_exactSimilarity (ha : a ≠ "") (hb : b ≠ "") :
    ∃ d, IsLeast {n | Edits n (Text.lowercase a).toList (Text.lowercase b).toList} d ∧
      exactSimilarity a b = 1 - d / max (Text.lowercase a).length (Text.lowercase b).length := by
  refine ⟨(Comparison.ofTexts a b).distance, ?_, ?_⟩
  · rw [distance_ofTexts, Text.lowercase, Text.lowercase, String.toList_ofList, String.toList_ofList]
    exact isLeast_editDistance _ _
  · rw [exactSimilarity_of_ne ha hb, Comparison.fraction, if_neg (length_ofTexts_ne_zero ha),
      length_ofTexts, Text.lowercase, Text.lowercase, String.length_ofList, String.length_ofList]

theorem exactSimilarity_eq_one_iff (ha : a ≠ "") (hb : b ≠ "") :
    exactSimilarity a b = 1 ↔ Text.lowercase a = Text.lowercase b := by
  rw [exactSimilarity_of_ne ha hb, Comparison.fraction_eq_one_iff (length_ofTexts_ne_zero ha),
    distance_ofTexts_eq_zero_iff, Text.lowercase, Text.lowercase, String.ofList_inj]

/-- Similarity is symmetric, lies between zero and one, is zero for the empty text, counts edits, and is one
for texts equal in lower case only. The double that is told is as near to the fraction as two roundings
leave it. -/
theorem similarity_measure (a b : String) :
    (exactSimilarity a b = exactSimilarity b a ∧ similarity a b = similarity b a) ∧
      (0 ≤ exactSimilarity a b ∧ exactSimilarity a b ≤ 1) ∧
      (a = "" ∨ b = "" → exactSimilarity a b = 0 ∧ similarity a b = 0.0) ∧
      (a ≠ "" → b ≠ "" →
        (∃ d, IsLeast {n | Edits n (Text.lowercase a).toList (Text.lowercase b).toList} d ∧
          exactSimilarity a b = 1 - d / max (Text.lowercase a).length (Text.lowercase b).length) ∧
        (exactSimilarity a b = 1 ↔ Text.lowercase a = Text.lowercase b)) ∧
      (Measured a → Measured b →
        |value (similarity a b) - exactSimilarity a b| ≤ 2 ^ (-53 : Int)) := by
  refine ⟨⟨exactSimilarity_comm a b, similarity_comm a b⟩,
    ⟨exactSimilarity_nonneg a b, exactSimilarity_le_one a b⟩, fun hempty => ?_, fun ha hb => ?_,
    abs_value_similarity_sub_le⟩
  · have hempty := isEmpty_or_isEmpty_iff.2 hempty
    exact ⟨if_pos hempty, if_pos hempty⟩
  · exact ⟨exists_isLeast_exactSimilarity ha hb, exactSimilarity_eq_one_iff ha hb⟩

/-- Two neighbours swapped among four characters, one of the texts in upper case. -/
theorem similarity_measure_swapped :
    exactSimilarity "nura" "NRUA" = 3 / 4 ∧ exactSimilarity "NRUA" "nura" = 3 / 4 ∧
      IsLeast {n | Edits n "nura".toList "nrua".toList} 1 ∧
      |value (similarity "nura" "NRUA") - 3 / 4| ≤ 2 ^ (-53 : Int) := by
  have hfraction : exactSimilarity "nura" "NRUA" = 3 / 4 := by decide +kernel
  have hlower : Text.lowercase "nura" = "nura" ∧ Text.lowercase "NRUA" = "nrua" := by decide +kernel
  obtain ⟨⟨hsymm, -⟩, -, -, hedits, hnear⟩ := similarity_measure "nura" "NRUA"
  obtain ⟨⟨d, hd, hshare⟩, -⟩ := hedits (by decide) (by decide)
  have hnear := hnear (by unfold Measured; decide +kernel) (by unfold Measured; decide +kernel)
  rw [hlower.1, hlower.2] at hd hshare
  rw [hfraction] at hsymm hshare hnear
  have hone : d = 1 := by
    rw [show max "nura".length "nrua".length = 4 by decide, Nat.cast_ofNat] at hshare
    have hcast : (d : ℚ) = 1 := by linarith
    exact_mod_cast hcast
  exact ⟨hfraction, hsymm.symm, hone ▸ hd, hnear⟩

end Parlance
