import Mathlib.Data.List.Basic
import Parlance.Proofs.Double.Order
import Parlance.Ranking.Candidate

/-!
The order of ranked candidates. Main statements: `pairwise_rank`, that no candidate reaches a
threshold which an earlier one misses, `filter_rank`, that ties keep the order of the intents, and
`rank_map`, that the ranking looks at nothing but what decides candidacy.
-/

namespace Parlance

theorem takeWhile_eq_filter {α : Type} {p : α → Bool} {l : List α}
    (h : l.Pairwise fun a b => p b → p a) : l.takeWhile p = l.filter p := by
  induction l with
  | nil => rfl
  | cons a l ih =>
    have ⟨ha, hl⟩ := List.pairwise_cons.1 h
    by_cases hp : p a
    · rw [List.takeWhile_cons_of_pos hp, List.filter_cons_of_pos hp, ih hl]
    · rw [List.takeWhile_cons_of_neg hp, List.filter_cons_of_neg hp,
        List.filter_eq_nil_iff.2 fun b hb hpb => hp (ha b hb hpb)]

/-- Sorting keeps what is tied in its order. -/
theorem filter_mergeSort {α : Type} {le : α → α → Bool} {l : List α} {p : α → Bool}
    (htrans : ∀ a b c, le a b → le b c → le a c) (htotal : ∀ a b, le a b || le b a)
    (hp : ∀ a b, p a → p b → le a b) : (l.mergeSort le).filter p = l.filter p := by
  have hties : (l.filter p).Pairwise fun a b => le a b := by
    rw [List.pairwise_iff_forall_sublist]
    intro a b hab
    have ha := hab.subset (a := a) (by simp)
    have hb := hab.subset (a := b) (by simp)
    exact hp a b (List.mem_filter.1 ha).2 (List.mem_filter.1 hb).2
  have hsub := List.sublist_mergeSort htrans htotal hties List.filter_sublist
  have hsub := hsub.filter p
  simp only [List.filter_filter, Bool.and_self] at hsub
  exact (hsub.eq_of_length ((List.mergeSort_perm _ _).filter p).length_eq.symm).symm

/-- Sorting keeps what relates the tied elements of a list. -/
theorem pairwise_mergeSort_ties {α : Type} {le : α → α → Bool} {l : List α} {R : α → α → Prop}
    (htrans : ∀ a b c, le a b → le b c → le a c) (htotal : ∀ a b, le a b || le b a)
    (h : l.Pairwise R) : (l.mergeSort le).Pairwise fun a b => le b a → R a b := by
  rw [List.pairwise_iff_forall_sublist]
  intro a b hab hba
  have hle : le a b := by
    have hsorted := (List.pairwise_mergeSort htrans htotal l).sublist hab
    exact (List.pairwise_cons.1 hsorted).1 b List.mem_cons_self
  have hrefl (x : α) : le x x := by simpa using htotal x x
  let tied (x : α) : Bool := le x a && le a x
  have htied : ∀ x y, tied x → tied y → le x y := by
    intro x y hx hy
    simp only [tied, Bool.and_eq_true] at hx hy
    exact htrans x a y hx.1 hy.2
  have hsub := hab.filter tied
  rw [filter_mergeSort htrans htotal htied] at hsub
  have hboth : [a, b].filter tied = [a, b] := by simp [tied, hrefl, hle, hba]
  rw [hboth] at hsub
  exact List.pairwise_iff_forall_sublist.1 h (hsub.trans List.filter_sublist)

namespace Ranking

theorem before_iff {a b : Candidate} :
    before a b ↔ orderKey b.score < orderKey a.score ∨
      (orderKey a.score = orderKey b.score ∧ MatchKind.order a.kind ≤ MatchKind.order b.kind) := by
  simp only [before, Bool.or_eq_true, Bool.and_eq_true, decide_eq_true_eq]

theorem before_trans (a b c : Candidate) (hab : before a b) (hbc : before b c) : before a c := by
  rw [before_iff] at *
  omega

theorem before_total (a b : Candidate) : before a b || before b a := by
  rw [Bool.or_eq_true, before_iff, before_iff]
  omega

theorem place_eq (x : Float) :
    (0 ≤ orderKey x ∧ Double.place x = orderKey x) ∨
      (orderKey x < 0 ∧ Double.place x = orderKey x + 1) := by
  have hx : x.toBits.toNat < 2 ^ 64 := x.toBits.toBitVec.isLt
  unfold Double.place Double.sign Double.magnitude orderKey
  by_cases h : x.toBits.toNat < 2 ^ 63
  · have h' : x.toBits.toNat < 0x8000000000000000 := h
    simp only [h, h', ↓reduceIte, Double.signed]
    omega
  · have h' : ¬x.toBits.toNat < 0x8000000000000000 := h
    simp only [h, h', ↓reduceIte, Double.signed]
    omega

theorem place_le_of_orderKey_le {x y : Float} (h : orderKey x ≤ orderKey y) :
    Double.place x ≤ Double.place y := by
  rcases place_eq x with hx | hx <;> rcases place_eq y with hy | hy <;> omega

theorem least_isNaN {a b : Float} (hb : b.isNaN = false) : (least a b).isNaN = false := by
  unfold least
  split
  · exact hb
  · rename_i ha
    rw [if_neg (hb ▸ Bool.false_ne_true)]
    split
    · exact Bool.eq_false_of_not_eq_true ha
    · exact hb

/-- Why an intent is a candidate for an utterance, and which one. -/
inductive Candidacy (m : Matching) (u : Text.Normalized) (i : Intent) : Candidate → Prop
  /-- It matches the utterance. -/
  | exact {captures : Captures} (hmatch : i.matchText u = some captures) :
      Candidacy m u i ⟨i, 1.0, captures, .exact⟩
  /-- It does not, but its words are like the utterance. -/
  | fuzzy (hmatch : i.matchText u = none) (hfuzzy : m.fuzzy = true)
      (hlike : m.threshold * m.admissionFactor ≤ similarity i.normalizedPhrase u.text) :
      Candidacy m u i ⟨i, least (similarity i.normalizedPhrase u.text +
        m.synonymBonus * u.substitutions.toFloat) 1.0, .empty, .fuzzy⟩

variable {m : Matching} {u : Text.Normalized} {i : Intent} {c : Candidate}

theorem candidate?_eq_some_iff : candidate? m u i = some c ↔ Candidacy m u i c := by
  constructor
  · intro h
    unfold candidate? at h
    split at h
    · rename_i captures hmatch
      cases h
      exact .exact hmatch
    · rename_i hmatch
      split at h
      · rename_i hfuzzy
        dsimp only at h
        split at h
        · rename_i hlike
          cases h
          exact .fuzzy hmatch hfuzzy hlike
        · cases h
      · cases h
  · intro h
    unfold candidate?
    cases h with
    | exact hmatch => rw [hmatch]
    | fuzzy hmatch hfuzzy hlike =>
      rw [hmatch]
      dsimp only
      rw [if_pos hfuzzy]
      exact if_pos hlike

theorem Candidacy.score_isNaN (h : Candidacy m u i c) : c.score.isNaN = false := by
  have hone : (1.0 : Float).isNaN = false := by decide
  cases h with
  | exact hmatch => exact hone
  | fuzzy hmatch hfuzzy hlike => exact least_isNaN hone

theorem candidate?_score_isNaN (h : candidate? m u i = some c) : c.score.isNaN = false :=
  (candidate?_eq_some_iff.1 h).score_isNaN

theorem mem_rank {m : Matching} {u : Text.Normalized} {is : List Intent} {c : Candidate} :
    c ∈ rank m u is ↔ ∃ i ∈ is, candidate? m u i = some c := by
  rw [rank, List.mem_mergeSort, List.mem_filterMap]

theorem le_score_of_before {t : Float} {a b : Candidate} (ha : a.score.isNaN = false)
    (hab : before a b) (hb : t ≤ b.score) : t ≤ a.score := by
  have ⟨ht, hb'⟩ := Double.isNaN_eq_false_of_le hb
  have hle : orderKey b.score ≤ orderKey a.score := by
    rw [before_iff] at hab
    omega
  rw [Double.le_iff_place_le ht ha]
  exact ((Double.le_iff_place_le ht hb').1 hb).trans (place_le_of_orderKey_le hle)

/-- No candidate reaches a threshold that an earlier one misses. -/
theorem pairwise_rank (m : Matching) (u : Text.Normalized) (is : List Intent) (t : Float) :
    (rank m u is).Pairwise fun a b => t ≤ b.score → t ≤ a.score := by
  have hsorted : (rank m u is).Pairwise fun a b => before a b :=
    List.pairwise_mergeSort before_trans before_total _
  refine hsorted.imp_of_mem fun {a b} ha hb hab => ?_
  obtain ⟨i, -, hi⟩ := mem_rank.1 ha
  exact le_score_of_before (candidate?_score_isNaN hi) hab

/-- Candidates that tie stay in the order of their intents. -/
theorem filter_rank (m : Matching) (u : Text.Normalized) (is : List Intent)
    {p : Candidate → Bool} (hp : ∀ a b, p a → p b → before a b) :
    (rank m u is).filter p = (is.filterMap (candidate? m u)).filter p :=
  filter_mergeSort before_trans before_total hp

end Ranking

/-- The same candidacy for another intent. -/
def Candidate.mapIntent (f : Intent → Intent) (c : Candidate) : Candidate :=
  { c with intent := f c.intent }

namespace Ranking

theorem candidate?_map (m : Matching) (u : Text.Normalized) {f : Intent → Intent} {i : Intent}
    (hmatch : (f i).matchText u = i.matchText u)
    (hwords : (f i).normalizedPhrase = i.normalizedPhrase) :
    candidate? m u (f i) = (candidate? m u i).map (Candidate.mapIntent f) := by
  unfold candidate?
  rw [hmatch, hwords]
  cases i.matchText u with
  | some c => rfl
  | none =>
    dsimp only
    split
    · split <;> rfl
    · rfl

/-- Intents that match alike and have the same words are ranked alike. -/
theorem rank_map (m : Matching) (u : Text.Normalized) {f : Intent → Intent} {is : List Intent}
    (hmatch : ∀ i ∈ is, (f i).matchText u = i.matchText u)
    (hwords : ∀ i ∈ is, (f i).normalizedPhrase = i.normalizedPhrase) :
    rank m u (is.map f) = (rank m u is).map (Candidate.mapIntent f) := by
  have hties : ∀ a ∈ is.filterMap (candidate? m u), ∀ b ∈ is.filterMap (candidate? m u),
      before a b = before (a.mapIntent f) (b.mapIntent f) := fun _ _ _ _ => rfl
  rw [rank, rank, List.map_mergeSort hties, List.filterMap_map, List.map_filterMap]
  exact congrArg (List.mergeSort · before)
    (List.filterMap_congr fun i hi => candidate?_map m u (hmatch i hi) (hwords i hi))

theorem candidate?_intent {m : Matching} {u : Text.Normalized} {i : Intent} {c : Candidate}
    (h : candidate? m u i = some c) : c.intent = i := by
  cases candidate?_eq_some_iff.1 h <;> rfl

end Ranking

end Parlance
