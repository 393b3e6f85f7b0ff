import Parlance.Locale.Detector
import Parlance.Proofs.Text.Words

/-!
What a choice of locale can come to. Main statements: `isTag_of_mem_candidates`, that every candidate
is a tag without blanks around it, and `mem_of_detect`, that detection makes up no locale.
-/

namespace Parlance

namespace Locale

/-- A tag without blanks around it that is not blank. -/
structure IsTag (tag : String) : Prop where
  trimmed : Text.trim tag = tag
  notBlank : Text.isBlank tag = false

theorem isTag_trim {tag : String} (h : Text.trim tag ≠ "") : IsTag (Text.trim tag) := by
  refine ⟨Text.trim_trim tag, ?_⟩
  rw [← Bool.not_eq_true, Text.isBlank_iff, Text.trim_trim]
  exact h

theorem isTag_of_mem_addTag {tags : List String} (h : ∀ t ∈ tags, IsTag t) {tag t : String}
    (ht : t ∈ addTag tags tag) : IsTag t := by
  unfold addTag at ht
  dsimp only at ht
  split at ht
  · exact h t ht
  · rename_i hnew
    rcases List.mem_append.1 ht with ht | ht
    · exact h t ht
    · rw [List.mem_singleton.1 ht]
      refine isTag_trim fun hempty => hnew ?_
      rw [hempty]
      rfl

theorem isTag_of_mem_foldl_addTag {given tags : List String} (h : ∀ t ∈ tags, IsTag t) {t : String}
    (ht : t ∈ given.foldl addTag tags) : IsTag t := by
  induction given generalizing tags with
  | nil => exact h t ht
  | cons tag given ih =>
    rw [List.foldl_cons] at ht
    exact ih (fun _ ht => isTag_of_mem_addTag h ht) ht

theorem isTag_of_mem_candidates {explicit : Option String} {active t : String}
    {fallbacks : List String} (ht : t ∈ candidates explicit active fallbacks) : IsTag t := by
  rw [candidates] at ht
  exact isTag_of_mem_foldl_addTag (List.forall_mem_nil _) ht

/-- Detection chooses one of the candidates. -/
theorem mem_of_detect {d : Detector} {text tag : String} {tags : List String}
    (h : d.detect text tags = some tag) : tag ∈ tags := by
  cases tags with
  | nil => cases h
  | cons first rest =>
    have hfold : ∀ (more : List String) (best : String × Nat), (∀ t ∈ more, t ∈ first :: rest) →
        best.1 ∈ first :: rest →
        (more.foldl (fun best candidate =>
          let score := d.scoreFor ((Text.words text).map Text.lowercase) candidate
          if best.2 < score then (candidate, score) else best) best).1 ∈ first :: rest := by
      intro more
      induction more with
      | nil => exact fun best _ hbest => hbest
      | cons t more ih =>
        intro best hmore hbest
        rw [List.foldl_cons]
        refine ih _ (fun t' ht' => hmore t' (List.mem_cons_of_mem _ ht')) ?_
        dsimp only
        split
        · exact hmore t List.mem_cons_self
        · exact hbest
    have he := Option.some.inj h
    exact he ▸ hfold (first :: rest) (first, 0) (fun _ ht => ht) List.mem_cons_self

end Locale

end Parlance
