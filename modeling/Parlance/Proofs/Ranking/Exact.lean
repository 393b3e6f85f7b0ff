import Parlance.Proofs.Ranking.Order

/-!
Exact candidates and those that are only like the utterance. Main statement: `exists_rank_eq_append`, that
looking for likeness adds candidates behind the exact ones and changes nothing before them.
-/

namespace Parlance.Ranking

variable {m : Matching} {u : Text.Normalized} {i : Intent} {c : Candidate}

theorem least_le {a b : Float} (hb : b.isNaN = false) : least a b ≤ b := by
  unfold least
  split
  · exact Double.le_refl hb
  · rw [hb, if_neg Bool.false_ne_true]
    split
    · assumption
    · exact Double.le_refl hb

/-- An intent is a candidate for one of two reasons. -/
theorem candidate?_cases (h : candidate? m u i = some c) :
    (∃ captures, i.matchText u = some captures ∧ c = ⟨i, 1.0, captures, .exact⟩) ∨
      (m.fuzzy = true ∧ i.matchText u = none ∧
        c = ⟨i, fuzzyScore m (similarity i.normalizedPhrase u.text) u.substitutions, .empty, .fuzzy⟩) := by
  cases candidate?_eq_some_iff.1 h with
  | exact hmatch => exact .inl ⟨_, hmatch, rfl⟩
  | fuzzy hmatch hfuzzy hlike => exact .inr ⟨hfuzzy, hmatch, rfl⟩

theorem score_le_one (h : candidate? m u i = some c) : c.score ≤ 1.0 := by
  have hone : (1.0 : Float).isNaN = false := by decide
  obtain ⟨captures, -, rfl⟩ | ⟨-, -, rfl⟩ := candidate?_cases h
  · exact Double.le_refl hone
  · exact least_le hone

theorem score_of_exact (h : candidate? m u i = some c) (hkind : c.kind = .exact) : c.score = 1.0 := by
  obtain ⟨captures, -, rfl⟩ | ⟨-, -, rfl⟩ := candidate?_cases h
  · rfl
  · cases hkind

theorem orderKey_le_one {x : Float} (h : x ≤ 1.0) : orderKey x ≤ orderKey 1.0 := by
  obtain ⟨hx, hone⟩ := Double.isNaN_eq_false_of_le h
  have hplace := (Double.le_iff_place_le hx hone).1 h
  have hkey : orderKey 1.0 = 0x3ff0000000000000 := by decide
  rcases place_eq x with hx | hx <;> rcases place_eq 1.0 with h1 | h1 <;> omega

/-- No candidate stands before an exact one but another exact one. -/
theorem pairwise_exact_rank (m : Matching) (u : Text.Normalized) (is : List Intent) :
    (rank m u is).Pairwise fun a b => b.kind = .exact → a.kind = .exact := by
  have hsorted : (rank m u is).Pairwise fun a b => before a b :=
    List.pairwise_mergeSort before_trans before_total _
  refine hsorted.imp_of_mem fun {a b} ha hb hab hkind => ?_
  obtain ⟨i, -, hi⟩ := mem_rank.1 ha
  obtain ⟨j, -, hj⟩ := mem_rank.1 hb
  have hscore := score_of_exact hj hkind
  have hle := orderKey_le_one (score_le_one hi)
  rw [before_iff, hscore, hkind] at hab
  rcases hab with hlt | ⟨-, horder⟩
  · omega
  · cases hk : a.kind with
    | exact => rfl
    | fuzzy =>
      rw [hk] at horder
      exact absurd horder (by decide)

/-- The candidates that match exactly, in the order of the intents. -/
def exactCandidates (u : Text.Normalized) (is : List Intent) : List Candidate :=
  is.filterMap fun i => (i.matchText u).map fun captures => ⟨i, 1.0, captures, .exact⟩

theorem filter_exact_candidates (m : Matching) (u : Text.Normalized) (is : List Intent) :
    (is.filterMap (candidate? m u)).filter (fun c => c.kind = .exact) = exactCandidates u is := by
  rw [exactCandidates, List.filter_filterMap]
  refine List.filterMap_congr fun i _ => ?_
  cases hmatch : i.matchText u with
  | some captures =>
    rw [candidate?, hmatch]
    rfl
  | none =>
    cases hc : candidate? m u i with
    | none => rfl
    | some c =>
      obtain ⟨captures, hsome, -⟩ | ⟨-, -, rfl⟩ := candidate?_cases hc
      · rw [hmatch] at hsome
        cases hsome
      · rfl

theorem filter_exact_rank (m : Matching) (u : Text.Normalized) (is : List Intent) :
    (rank m u is).filter (fun c => c.kind = .exact) = exactCandidates u is := by
  -- exact candidates tie, since all of them have the score one
  let top (c : Candidate) : Bool := c.kind = .exact ∧ orderKey c.score = orderKey 1.0
  have htop : ∀ i ∈ is, ∀ c, candidate? m u i = some c → decide (c.kind = .exact) = top c := by
    intro i _ c hc
    by_cases hkind : c.kind = .exact
    · simp [top, hkind, score_of_exact hc hkind]
    · simp [top, hkind]
  have hties : ∀ a b, top a → top b → before a b := by
    intro a b ha hb
    simp only [top, decide_eq_true_eq] at ha hb
    rw [before_iff, ha.1, hb.1, ha.2, hb.2]
    exact .inr ⟨rfl, le_rfl⟩
  have hranked : (rank m u is).filter (fun c => c.kind = .exact) = (rank m u is).filter top := by
    apply List.filter_congr
    intro c hc
    obtain ⟨i, hi, hic⟩ := mem_rank.1 hc
    exact htop i hi c hic
  have hgiven : (is.filterMap (candidate? m u)).filter (fun c => c.kind = .exact) =
      (is.filterMap (candidate? m u)).filter top := by
    apply List.filter_congr
    intro c hc
    obtain ⟨i, hi, hic⟩ := List.mem_filterMap.1 hc
    exact htop i hi c hic
  rw [hranked, filter_rank m u is hties, ← hgiven, filter_exact_candidates]

/-- The exact candidates come first, in the order of the intents. -/
theorem exists_rank_eq_append (m : Matching) (u : Text.Normalized) (is : List Intent) :
    ∃ rest, rank m u is = exactCandidates u is ++ rest ∧ (m.fuzzy = false → rest = []) := by
  let isExact (c : Candidate) : Bool := c.kind = .exact
  have htake : (rank m u is).takeWhile isExact = (rank m u is).filter isExact :=
    takeWhile_eq_filter (by simpa [isExact] using pairwise_exact_rank m u is)
  refine ⟨(rank m u is).dropWhile isExact, ?_, fun hfuzzy => ?_⟩
  · rw [← filter_exact_rank m, ← htake, List.takeWhile_append_dropWhile]
  · rw [List.dropWhile_eq_nil_iff]
    intro c hc
    obtain ⟨i, -, hi⟩ := mem_rank.1 hc
    obtain ⟨captures, -, rfl⟩ | ⟨hf, -, -⟩ := candidate?_cases hi
    · rfl
    · rw [hfuzzy] at hf
      cases hf

end Parlance.Ranking
