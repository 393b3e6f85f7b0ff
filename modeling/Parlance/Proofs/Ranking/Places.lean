import Parlance.Proofs.Double.Zero
import Parlance.Proofs.Ranking.Exact

/-!
A ranking with the places that its intents have in the list they come from. Main statement:
`exists_ranked_rank`, that the ranking holds every intent that is a candidate once for each of its places,
in the order of the scores as numbers, and those that tie in the order of the list.
-/

namespace Parlance.Ranking

open Double

/-- Scores are compared by their bits, which tell the two zeros apart. -/
theorem orderKey_le_of_place_le {x y : Float} (hy : PositiveZero y) (h : place x ≤ place y) :
    orderKey x ≤ orderKey y := by
  have hx := place_eq x
  rcases place_eq y with hpos | ⟨hneg, hplace⟩
  · omega
  · have hsign : sign y = .negative := by
      unfold orderKey at hneg
      rw [sign, if_neg]
      intro (hlow : y.toBits.toNat < 0x8000000000000000)
      dsimp only at hneg
      rw [if_pos hlow] at hneg
      omega
    have hnonzero : magnitude y ≠ 0 := by
      intro hzero
      rw [hy hzero] at hsign
      cases hsign
    have hlt : place y < 0 := by
      rw [place, hsign]
      simp only [signed]
      omega
    omega

theorem place_eq_of_beq {x y : Float} (hx : x.isNaN = false) (hy : y.isNaN = false)
    (h : (x == y) = true) : place x = place y := by
  change (x.toModel.unpack.compare y.toModel.unpack == some .eq) = true at h
  rw [compare_unpack hx hy, beq_iff_eq, Option.some_inj, compare_eq_iff_eq] at h
  exact h

theorem positiveZero_one : PositiveZero 1.0 :=
  fun h => absurd h (by decide)

theorem positiveZero_similarity (a b : String) : PositiveZero (similarity a b) := by
  unfold similarity
  split
  · exact fun _ => if_pos (by decide)
  · unfold Comparison.score
    split
    · exact positiveZero_one
    · exact positiveZero_one.sub

theorem positiveZero_least {x y : Float} (hx : PositiveZero x) (hy : PositiveZero y) :
    PositiveZero (least x y) := by
  unfold least
  split
  · exact hy
  · split
    · exact hx
    · split
      · exact hx
      · exact hy

/-- A ranking of the intents, its candidates with the places of their intents. -/
structure Ranked (m : Matching) (u : Text.Normalized) (intents : List Intent)
    (ranked : List (Nat × Candidate)) : Prop where
  nodup : (ranked.map Prod.fst).Nodup
  mem_iff : ∀ k c, (k, c) ∈ ranked ↔ ∃ i, intents[k]? = some i ∧ Candidacy m u i c
  descending : ranked.Pairwise fun a b => b.2.score ≤ a.2.score
  exact_first : ranked.Pairwise fun a b => b.2.kind = .exact → a.2.kind = .exact
  stable : ranked.Pairwise fun a b =>
    (a.2.score == b.2.score) = true → a.2.kind = b.2.kind → a.1 < b.1

variable {m : Matching} {u : Text.Normalized} {i : Intent} {c : Candidate} {intents : List Intent}

theorem Candidacy.positiveZero_score (h : Candidacy m u i c) : PositiveZero c.score := by
  cases h with
  | exact hmatch => exact positiveZero_one
  | fuzzy hmatch hfuzzy hlike =>
    exact positiveZero_least (positiveZero_similarity _ _).add positiveZero_one

/-- Candidates of one kind whose scores are one number may stand either way. -/
theorem before_of_beq {j : Intent} {d : Candidate} (hc : Candidacy m u i c) (hd : Candidacy m u j d)
    (hscore : (c.score == d.score) = true) (hkind : c.kind = d.kind) : before d c := by
  have hplace := place_eq_of_beq hc.score_isNaN hd.score_isNaN hscore
  have hle := orderKey_le_of_place_le hc.positiveZero_score hplace.ge
  have hge := orderKey_le_of_place_le hd.positiveZero_score hplace.le
  rw [before_iff, hkind]
  exact .inr ⟨le_antisymm hle hge, le_rfl⟩

/-- The candidates in the order of the intents, with the places of these. -/
def placed (m : Matching) (u : Text.Normalized) (intents : List Intent) : List (Nat × Candidate) :=
  intents.zipIdx.filterMap fun (i, k) => (candidate? m u i).map (k, ·)

theorem map_snd_placed (m : Matching) (u : Text.Normalized) (intents : List Intent) :
    (placed m u intents).map Prod.snd = intents.filterMap (candidate? m u) := by
  rw [placed, List.map_filterMap]
  conv_rhs => rw [← List.zipIdx_map_fst 0 intents, List.filterMap_map]
  refine List.filterMap_congr fun p _ => ?_
  obtain ⟨i, k⟩ := p
  dsimp only [Function.comp]
  rw [Option.map_map]
  exact Option.map_id'

theorem mem_placed {k : Nat} :
    (k, c) ∈ placed m u intents ↔ ∃ i, intents[k]? = some i ∧ Candidacy m u i c := by
  simp only [placed, List.mem_filterMap, Prod.exists, List.mem_zipIdx_iff_getElem?, Option.map_eq_some_iff,
    Prod.mk.injEq, candidate?_eq_some_iff]
  constructor
  · rintro ⟨i, k, hk, c, hc, rfl, rfl⟩
    exact ⟨i, hk, hc⟩
  · rintro ⟨i, hk, hc⟩
    exact ⟨i, k, hk, c, hc, rfl, rfl⟩

theorem pairwise_placed (m : Matching) (u : Text.Normalized) (intents : List Intent) :
    (placed m u intents).Pairwise fun a b => a.1 < b.1 := by
  have hplaces : (intents.zipIdx).Pairwise fun a b => a.2 < b.2 := by
    have hrange := List.pairwise_lt_range' (s := 0) (n := intents.length) 1
    rw [← List.zipIdx_map_snd, List.pairwise_map] at hrange
    exact hrange
  refine hplaces.filterMap _ fun a b hab x hx y hy => ?_
  obtain ⟨c, -, rfl⟩ := Option.map_eq_some_iff.1 hx
  obtain ⟨d, -, rfl⟩ := Option.map_eq_some_iff.1 hy
  exact hab

/-- The ranking is complete, sound and in a stable order. -/
theorem exists_ranked_rank (m : Matching) (u : Text.Normalized) (intents : List Intent) :
    ∃ ranked, Ranked m u intents ranked ∧ rank m u intents = ranked.map Prod.snd := by
  let le (a b : Nat × Candidate) : Bool := before a.2 b.2
  have htrans : ∀ a b c, le a b → le b c → le a c := fun a b c => before_trans a.2 b.2 c.2
  have htotal : ∀ a b, le a b || le b a := fun a b => before_total a.2 b.2
  have hrank : rank m u intents = ((placed m u intents).mergeSort le).map Prod.snd := by
    rw [rank, ← map_snd_placed, List.map_mergeSort]
    exact fun _ _ _ _ => rfl
  refine ⟨(placed m u intents).mergeSort le, ?_, hrank⟩
  have hmem : ∀ p, p ∈ (placed m u intents).mergeSort le → ∃ i, Candidacy m u i p.2 := by
    intro p hp
    obtain ⟨i, -, hi⟩ := mem_placed.1 (List.mem_mergeSort.1 hp)
    exact ⟨i, hi⟩
  constructor
  · have hperm := (List.mergeSort_perm (placed m u intents) le).map Prod.fst
    rw [hperm.nodup_iff, List.Nodup, List.pairwise_map]
    exact (pairwise_placed m u intents).imp Nat.ne_of_lt
  · intro k c
    rw [List.mem_mergeSort, mem_placed]
  · have hsorted : ((placed m u intents).mergeSort le).Pairwise fun a b => le a b :=
      List.pairwise_mergeSort htrans htotal _
    refine hsorted.imp_of_mem fun {a b} ha hb hab => ?_
    obtain ⟨i, hi⟩ := hmem a ha
    obtain ⟨j, hj⟩ := hmem b hb
    exact le_score_of_before hi.score_isNaN hab (Double.le_refl hj.score_isNaN)
  · have hexact := pairwise_exact_rank m u intents
    rw [hrank, List.pairwise_map] at hexact
    exact hexact
  · have hties := pairwise_mergeSort_ties htrans htotal (pairwise_placed m u intents)
    refine hties.imp_of_mem fun {a b} ha hb htie hscore hkind => ?_
    obtain ⟨i, hi⟩ := hmem a ha
    obtain ⟨j, hj⟩ := hmem b hb
    exact htie (before_of_beq hi hj hscore hkind)

end Parlance.Ranking
