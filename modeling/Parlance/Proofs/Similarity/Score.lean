import Parlance.Proofs.Double.Share
import Parlance.Proofs.Similarity.Table

/-!
What likeness amounts to. Main statements: `share_similarity`, that it lies between zero and one, and
`similarity_lt_one`, that it is less than one for texts that differ in more than case.
-/

namespace Parlance

open Double

namespace Comparison

variable {c : Comparison}

theorem share_score (hle : c.distance ≤ c.length) (hn : c.length ≤ 2 ^ 128) : Share c.score := by
  unfold score
  split
  · exact share_one
  · exact (share_div_toFloat hle (by omega) hn).one_sub

theorem score_lt_one (hle : c.distance ≤ c.length) (hn : c.length < 2 ^ 53) (hpos : 0 < c.distance) :
    c.score < 1.0 := by
  rw [score, if_neg (by omega)]
  exact (share_div_toFloat hle (by omega) (by omega)).one_sub_lt_one (le_value_div_toFloat hle hpos hn)

end Comparison

/-- A text whose length in lower case is a number of 128 bits. -/
def Sized (s : String) : Prop :=
  (Unicode.lowercase s.toList).length ≤ 2 ^ 128

/-- A text whose length in lower case a double tells from any other. -/
def Measured (s : String) : Prop :=
  (Unicode.lowercase s.toList).length < 2 ^ 53

variable {a b : String}

theorem distance_ofTexts_le (a b : String) :
    (Comparison.ofTexts a b).distance ≤ (Comparison.ofTexts a b).length :=
  editDistance_le _ _

theorem length_ofTexts (a b : String) : (Comparison.ofTexts a b).length =
    max (Unicode.lowercase a.toList).length (Unicode.lowercase b.toList).length :=
  rfl

theorem distance_ofTexts_eq_zero_iff : (Comparison.ofTexts a b).distance = 0 ↔
    Unicode.lowercase a.toList = Unicode.lowercase b.toList := by
  unfold Comparison.ofTexts
  dsimp only
  rw [editDistance_eq_zero_iff]

theorem share_similarity (ha : Sized a) (hb : Sized b) : Share (similarity a b) := by
  unfold similarity
  split
  · exact share_zero
  · apply Comparison.share_score (distance_ofTexts_le a b)
    rw [length_ofTexts]
    exact max_le ha hb

/-- Only texts that are equal in lower case are quite alike. -/
theorem similarity_lt_one (ha : Measured a) (hb : Measured b)
    (hne : Unicode.lowercase a.toList ≠ Unicode.lowercase b.toList) : similarity a b < 1.0 := by
  unfold similarity
  split
  · decide
  · apply Comparison.score_lt_one (distance_ofTexts_le a b)
    · rw [length_ofTexts]
      exact max_lt ha hb
    · exact Nat.pos_of_ne_zero (mt distance_ofTexts_eq_zero_iff.1 hne)

end Parlance
