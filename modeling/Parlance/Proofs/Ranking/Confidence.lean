import Parlance.Proofs.Double.Special
import Parlance.Proofs.Ranking.Places
import Parlance.Proofs.Settings.Saved
import Parlance.Proofs.Template.Filled

/-!
What the synonym bonus does to an utterance without synonyms. Main statement:
`score_eq_similarity_iff`, that in valid settings a candidate by likeness is as sure as it is alike,
except that any is quite sure under an infinite bonus.
-/

namespace Parlance

open Double

namespace Matching

variable {m : Matching}

theorem synonymBonus_nonneg (h : m.fault? = none) : 0.0 ≤ m.synonymBonus := by
  obtain ⟨-, hnan, hbonus⟩ := fault?_eq_none_iff.1 h
  exact (not_lt_iff_le hnan share_zero.amount.isNaN).1 hbonus

/-- Of the bonuses that are not finite, only infinity is valid. -/
theorem synonymBonus_eq_infinity (h : m.fault? = none) (hfinite : m.synonymBonus.isFinite = false) :
    m.synonymBonus = infinity := by
  have hnan := isNaN_synonymBonus h
  exact eq_infinity hfinite hnan
    ((le_iff_place_le share_zero.amount.isNaN hnan).1 (synonymBonus_nonneg h))

end Matching

/-! Likeness of texts of any length. It is no number for texts so long that their lengths are not finite as
doubles. -/

theorem Comparison.share_of_isNaN_eq_false {c : Comparison} (hle : c.distance ≤ c.length)
    (h : c.score.isNaN = false) : Share c.score := by
  unfold score at h ⊢
  split
  · exact share_one
  · rename_i hlength
    rw [if_neg hlength] at h
    have hquotient : (c.distance.toFloat / c.length.toFloat).isNaN = false := by
      by_contra hnan
      rw [isNaN_sub (by simpa using hnan)] at h
      cases h
    exact (Share.of_div_toFloat hle (Nat.pos_of_ne_zero hlength) hquotient).one_sub

theorem share_similarity_of_isNaN_eq_false {a b : String} (h : (similarity a b).isNaN = false) :
    Share (similarity a b) := by
  unfold similarity at h ⊢
  split
  · exact share_zero
  · rename_i hempty
    rw [if_neg hempty] at h
    exact Comparison.share_of_isNaN_eq_false (distance_ofTexts_le a b) h

namespace Ranking

variable {a b : Float}

theorem least_eq_left (h : a ≤ b) : least a b = a := by
  obtain ⟨ha, hb⟩ := isNaN_eq_false_of_le h
  rw [least, ha, if_neg Bool.false_ne_true, hb, if_neg Bool.false_ne_true, if_pos h]

theorem least_eq_right (h : a.isNaN) : least a b = b := by
  rw [least, if_pos h]

variable {m : Matching} {s : Settings} {u : Text.Normalized} {i : Intent} {intents : List Intent}
  {c : Candidate}

theorem Candidacy.score_of_isFinite (h : Candidacy m u i c) (hu : u.substitutions = 0)
    (hkind : c.kind = .fuzzy) (hbonus : m.synonymBonus.isFinite) :
    c.score = similarity c.intent.normalizedPhrase u.text := by
  cases h with
  | exact hmatch => cases hkind
  | fuzzy hmatch hfuzzy hlike =>
    have hshare := share_similarity_of_isNaN_eq_false (isNaN_eq_false_of_le hlike).2
    have hnone : magnitude (m.synonymBonus * (0 : Nat).toFloat) = 0 := magnitude_mul_zero hbonus
    dsimp only
    rw [hu, (positiveZero_similarity _ _).add_zero hnone, least_eq_left hshare.le_one]

/-- Infinity taken no times is no number, nor is what it is added to, and the cap at one replaces it. -/
theorem Candidacy.score_of_infinite (h : Candidacy m u i c) (hu : u.substitutions = 0)
    (hkind : c.kind = .fuzzy) (hbonus : m.synonymBonus.isFinite = false) : c.score = 1.0 := by
  cases h with
  | exact hmatch => cases hkind
  | fuzzy hmatch hfuzzy hlike =>
    have hnan : (m.synonymBonus * (0 : Nat).toFloat).isNaN := isNaN_mul_zero hbonus
    dsimp only
    rw [hu, least_eq_right (isNaN_add hnan)]

/-- Without synonyms, a candidate by likeness has its likeness for a score just if the bonus is finite, or
it is quite alike; under an infinite bonus it is quite sure. -/
theorem score_eq_similarity_iff (hvalid : s.fault? = none) (hu : u.substitutions = 0)
    (hc : c ∈ rank s.matching u intents) (hkind : c.kind = .fuzzy) :
    (c.score = similarity c.intent.normalizedPhrase u.text ↔
        (s.matching.synonymBonus = infinity → similarity c.intent.normalizedPhrase u.text = 1.0)) ∧
      (s.matching.synonymBonus = infinity → c.score = 1.0) := by
  obtain ⟨i, -, hi⟩ := mem_rank.1 hc
  have hcandidacy := candidate?_eq_some_iff.1 hi
  obtain ⟨-, hmatching, -⟩ := Settings.fault?_eq_none_iff.1 hvalid
  have hone (h : s.matching.synonymBonus = infinity) : c.score = 1.0 :=
    hcandidacy.score_of_infinite hu hkind (by rw [h]; decide)
  refine ⟨⟨fun hscore h => ?_, fun h => ?_⟩, hone⟩
  · rw [← hscore, hone h]
  · by_cases hfinite : s.matching.synonymBonus.isFinite
    · exact hcandidacy.score_of_isFinite hu hkind hfinite
    · have hinfinity := Matching.synonymBonus_eq_infinity hmatching (by simpa using hfinite)
      rw [hone hinfinity, h hinfinity]

/-- Four characters of five are as sure as they are alike, whatever a synonym would add. -/
theorem score_eq_similarity_iff_panel :
    ∃ i c, Intent.compile (.spoken "abre panel" []) "abre panel" .canonical "es" {} = .ok i ∧
      ({} : Settings).fault? = none ∧ (Text.normalize {} "es" "abre pan").substitutions = 0 ∧
      c ∈ rank ({} : Settings).matching (Text.normalize {} "es" "abre pan") [i] ∧ c.kind = .fuzzy ∧
      c.score = similarity c.intent.normalizedPhrase "abre pan" := by
  obtain ⟨i, hcompile, c, hc, hkind⟩ :
      ∃ i ∈ (Intent.compile (.spoken "abre panel" []) "abre panel" .canonical "es" {}).toOption,
        ∃ c ∈ candidate? ({} : Settings).matching (Text.normalize {} "es" "abre pan") i,
          c.kind = .fuzzy := by
    decide +kernel
  have hvalid : ({} : Settings).fault? = none := by
    rw [← Option.isNone_iff_eq_none]
    decide +kernel
  have hu : (Text.normalize {} "es" "abre pan").substitutions = 0 := by decide +kernel
  have htext : (Text.normalize {} "es" "abre pan").text = "abre pan" := by decide +kernel
  have hmem := mem_rank.2 ⟨i, List.mem_singleton_self i, hc⟩
  have hscore := (score_eq_similarity_iff hvalid hu hmem hkind).1.2 fun h => absurd h (by decide)
  rw [htext] at hscore
  exact ⟨i, c, eq_ok_of_mem_toOption hcompile, hvalid, hu, hmem, hkind, hscore⟩

/-- Settings that add without bound for a synonym. -/
def unbounded : Settings where
  matching := { synonymBonus := infinity }

/-- An utterance without synonyms that is less like a phrase than the threshold is quite sure to mean it. -/
theorem exists_score_ne_similarity :
    unbounded.fault? = none ∧ (Text.normalize {} "es" "abre pan").substitutions = 0 ∧
      ∃ i c, Intent.compile (.spoken "abre panel" []) "abre panel" .canonical "es" {} = .ok i ∧
        c ∈ rank unbounded.matching (Text.normalize {} "es" "abre pan") [i] ∧ c.kind = .fuzzy ∧
        c.score ≠ similarity c.intent.normalizedPhrase (Text.normalize {} "es" "abre pan").text ∧
        similarity c.intent.normalizedPhrase (Text.normalize {} "es" "abre pan").text <
          unbounded.matching.threshold ∧ c.score = 1.0 := by
  obtain ⟨i, hcompile, c, hc, hkind, hne, hlt, hone⟩ :
      ∃ i ∈ (Intent.compile (.spoken "abre panel" []) "abre panel" .canonical "es" {}).toOption,
        ∃ c ∈ candidate? unbounded.matching (Text.normalize {} "es" "abre pan") i,
          c.kind = .fuzzy ∧
          c.score ≠ similarity c.intent.normalizedPhrase (Text.normalize {} "es" "abre pan").text ∧
          similarity c.intent.normalizedPhrase (Text.normalize {} "es" "abre pan").text <
            unbounded.matching.threshold ∧ c.score = 1.0 := by
    decide +kernel
  have hvalid : unbounded.fault? = none := by
    rw [← Option.isNone_iff_eq_none]
    decide +kernel
  exact ⟨hvalid, by decide +kernel, i, c, eq_ok_of_mem_toOption hcompile,
    mem_rank.2 ⟨i, List.mem_singleton_self i, hc⟩, hkind, hne, hlt, hone⟩

end Ranking

end Parlance
