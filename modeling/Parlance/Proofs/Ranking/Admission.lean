import Parlance.Proofs.Double.Share
import Parlance.Proofs.Ranking.Exact
import Parlance.Settings.Basic

/-!
The threshold and what is admitted under it. Main statement: `mem_rank_withThreshold`, that a lower
threshold admits every candidate that a higher one does, with the same score.
-/

namespace Parlance

open Double

namespace Matching

def withThreshold (m : Matching) (threshold : Float) : Matching :=
  { m with threshold }

/-- What the settings have to be within zero and one. -/
structure Shares (m : Matching) : Prop where
  threshold : Wake.isShare m.threshold
  admissionFactor : Wake.isShare m.admissionFactor

variable {m : Matching}

/-- What is asked of valid settings, all at once. -/
theorem fault?_eq_none_iff : m.fault? = none ↔
    (Wake.isShare m.threshold ∧ Wake.isShare m.admissionFactor) ∧
      m.synonymBonus.isNaN = false ∧ ¬m.synonymBonus < 0.0 := by
  unfold fault?
  cases Wake.isShare m.threshold <;> cases Wake.isShare m.admissionFactor <;> simp

theorem shares_of_fault? (h : m.fault? = none) : m.Shares := by
  obtain ⟨⟨hthreshold, hfactor⟩, -⟩ := fault?_eq_none_iff.1 h
  exact ⟨hthreshold, hfactor⟩

end Matching

theorem Settings.fault?_eq_none_iff {s : Settings} : s.fault? = none ↔
    Text.isBlank s.locale = false ∧ s.matching.fault? = none ∧ s.wake.fault? s.locale = none := by
  rw [fault?, ← Option.or_eq_none_iff]
  cases Text.isBlank s.locale <;> simp

namespace Ranking

variable {m : Matching} {u : Text.Normalized} {threshold threshold' : Float}

/-- The product is rounded, but to no less for a higher threshold. -/
theorem admission_le (h : (m.withThreshold threshold).Shares)
    (h' : (m.withThreshold threshold').Shares) (hle : threshold ≤ threshold') :
    admission (m.withThreshold threshold) ≤ admission (m.withThreshold threshold') :=
  mul_le_mul_right (Wake.share_of_isShare h.threshold).amount (Wake.share_of_isShare h'.threshold).amount
    (Wake.share_of_isShare h.admissionFactor).amount hle

theorem candidate?_withThreshold (h : (m.withThreshold threshold).Shares)
    (h' : (m.withThreshold threshold').Shares) (hle : threshold ≤ threshold') {i : Intent}
    {c : Candidate} (hc : candidate? (m.withThreshold threshold') u i = some c) :
    candidate? (m.withThreshold threshold) u i = some c := by
  rw [candidate?_eq_some_iff] at hc ⊢
  cases hc with
  | exact hmatch => exact .exact hmatch
  | fuzzy hmatch hfuzzy hlike =>
    exact .fuzzy hmatch hfuzzy (Double.le_trans (admission_le h h' hle) hlike)

/-- A lower threshold admits every candidate that a higher one does. -/
theorem mem_rank_withThreshold (h : (m.withThreshold threshold).Shares)
    (h' : (m.withThreshold threshold').Shares) (hle : threshold ≤ threshold') {is : List Intent}
    {c : Candidate} (hc : c ∈ rank (m.withThreshold threshold') u is) :
    c ∈ rank (m.withThreshold threshold) u is := by
  obtain ⟨i, hi, hic⟩ := mem_rank.1 hc
  exact mem_rank.2 ⟨i, hi, candidate?_withThreshold h h' hle hic⟩

end Ranking

end Parlance
