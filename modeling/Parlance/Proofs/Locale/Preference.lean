import Parlance.Proofs.Locale.Choice

/-!
Locales in the order of preference. Main statement: `detect_candidates`, that the candidates are the tags
as they are first met, without blanks around them and once regardless of case, and that detection chooses
the earliest candidate with the highest score.
-/

namespace Parlance

namespace Locale

variable {given seen : List String} {tag t : String}

/-! Candidates. -/

/-- The tags that a choice of locale starts from. -/
def offered (explicit : Option String) (active : String) (fallbacks : List String) : List String :=
  explicit.toList ++ active :: baseLanguage active :: fallbacks

/-- The tags kept of those given, with the places where they are met. -/
structure Preferred (given : List String) (placed : List (Nat × String)) : Prop where
  isTag : ∀ p ∈ placed, IsTag p.2
  distinct : placed.Pairwise fun p q => ¬Text.sameIgnoringAsciiCase p.2 q.2
  complete : ∀ tag ∈ given, Text.isBlank tag = false →
    ∃ p ∈ placed, Text.sameIgnoringAsciiCase p.2 (Text.trim tag)
  ascending : placed.Pairwise fun p q => p.1 < q.1
  /-- A tag is kept where it is met for the first time. -/
  first : ∀ p ∈ placed, ∃ tag, given[p.1]? = some tag ∧ p.2 = Text.trim tag ∧
    ∀ j < p.1, ∀ tag', given[j]? = some tag' → ¬Text.sameIgnoringAsciiCase (Text.trim tag') p.2

theorem sameIgnoringAsciiCase_iff {a b : String} :
    Text.sameIgnoringAsciiCase a b ↔ a.toLower = b.toLower := by
  rw [Text.sameIgnoringAsciiCase, beq_iff_eq]

/-- No tag but the empty one is like it. -/
theorem eq_empty_of_sameIgnoringAsciiCase (h : Text.sameIgnoringAsciiCase "" t) : t = "" := by
  have hchars : "".toList.map Char.toLower = t.toList.map Char.toLower := by
    rw [← String.toList_map, ← String.toList_map]
    exact congrArg String.toList (sameIgnoringAsciiCase_iff.1 h)
  exact String.toList_eq_nil_iff.1 (List.map_eq_nil_iff.1 hchars.symm)

theorem isBlank_eq_false_iff : Text.isBlank tag = false ↔ Text.trim tag ≠ "" := by
  rw [← Bool.not_eq_true, Text.isBlank_iff]

theorem addTag_of_isBlank (tags : List String) (h : Text.isBlank tag) : addTag tags tag = tags := by
  have hempty : (Text.trim tag).isEmpty := by rwa [String.isEmpty_iff, ← Text.isBlank_iff]
  rw [addTag, hempty, Bool.true_or, if_pos rfl]

theorem addTag_of_mem {tags : List String} (ht : t ∈ tags)
    (hsame : Text.sameIgnoringAsciiCase t (Text.trim tag)) : addTag tags tag = tags := by
  have hany : tags.any (Text.sameIgnoringAsciiCase · (Text.trim tag)) :=
    List.any_eq_true.2 ⟨t, ht, hsame⟩
  rw [addTag, hany, Bool.or_true, if_pos rfl]

theorem addTag_of_not_mem {tags : List String} (h : Text.isBlank tag = false)
    (hnew : ∀ t ∈ tags, ¬Text.sameIgnoringAsciiCase t (Text.trim tag)) :
    addTag tags tag = tags ++ [Text.trim tag] := by
  have hempty : (Text.trim tag).isEmpty = false := by
    rw [← Bool.not_eq_true, String.isEmpty_iff]
    exact isBlank_eq_false_iff.1 h
  have hany : tags.any (Text.sameIgnoringAsciiCase · (Text.trim tag)) = false :=
    List.any_eq_false.2 hnew
  rw [addTag, hempty, hany, Bool.or_false, if_neg Bool.false_ne_true]

namespace Preferred

variable {placed : List (Nat × String)}

theorem nil : Preferred [] [] := by
  constructor <;> simp

theorem lt_length (h : Preferred given placed) {p : Nat × String} (hp : p ∈ placed) :
    p.1 < given.length := by
  obtain ⟨tag, htag, -⟩ := h.first p hp
  exact (List.getElem?_eq_some_iff.1 htag).1

theorem first_append (h : Preferred given placed) (tag : String) {p : Nat × String} (hp : p ∈ placed) :
    ∃ tag', (given ++ [tag])[p.1]? = some tag' ∧ p.2 = Text.trim tag' ∧
      ∀ j < p.1, ∀ s, (given ++ [tag])[j]? = some s →
        ¬Text.sameIgnoringAsciiCase (Text.trim s) p.2 := by
  obtain ⟨tag', htag', heq, hfirst⟩ := h.first p hp
  have hlt := h.lt_length hp
  refine ⟨tag', ?_, heq, fun j hj s hs => hfirst j hj s ?_⟩
  · rwa [List.getElem?_append_left hlt]
  · rwa [List.getElem?_append_left (hj.trans hlt)] at hs

/-- A blank tag, or one that is met again, changes nothing. -/
theorem skip (h : Preferred given placed)
    (hold : Text.isBlank tag = false →
      ∃ p ∈ placed, Text.sameIgnoringAsciiCase p.2 (Text.trim tag)) :
    Preferred (given ++ [tag]) placed where
  isTag := h.isTag
  distinct := h.distinct
  complete tag' htag' hblank := by
    rcases List.mem_append.1 htag' with hmem | hmem
    · exact h.complete tag' hmem hblank
    · rw [List.mem_singleton.1 hmem] at hblank ⊢
      exact hold hblank
  ascending := h.ascending
  first _ hp := h.first_append tag hp

/-- A tag that is met for the first time is kept behind the others. -/
theorem keep (h : Preferred given placed) (hblank : Text.isBlank tag = false)
    (hnew : ∀ p ∈ placed, ¬Text.sameIgnoringAsciiCase p.2 (Text.trim tag)) :
    Preferred (given ++ [tag]) (placed ++ [(given.length, Text.trim tag)]) where
  isTag p hp := by
    rcases List.mem_append.1 hp with hp | hp
    · exact h.isTag p hp
    · rw [List.mem_singleton.1 hp]
      exact isTag_trim (isBlank_eq_false_iff.1 hblank)
  distinct := by
    rw [List.pairwise_append]
    refine ⟨h.distinct, List.pairwise_singleton _ _, fun p hp q hq => ?_⟩
    rw [List.mem_singleton.1 hq]
    exact hnew p hp
  complete tag' htag' hblank' := by
    rcases List.mem_append.1 htag' with hmem | hmem
    · obtain ⟨p, hp, hsame⟩ := h.complete tag' hmem hblank'
      exact ⟨p, List.mem_append_left _ hp, hsame⟩
    · rw [List.mem_singleton.1 hmem]
      exact ⟨_, List.mem_append_right _ List.mem_cons_self, sameIgnoringAsciiCase_iff.2 rfl⟩
  ascending := by
    rw [List.pairwise_append]
    refine ⟨h.ascending, List.pairwise_singleton _ _, fun p hp q hq => ?_⟩
    rw [List.mem_singleton.1 hq]
    exact h.lt_length hp
  first p hp := by
    rcases List.mem_append.1 hp with hp | hp
    · exact h.first_append tag hp
    · rw [List.mem_singleton.1 hp]
      refine ⟨tag, List.getElem?_concat_length, rfl, fun j hj s hs hsame => ?_⟩
      rw [List.getElem?_append_left hj] at hs
      have hblank' : Text.isBlank s = false := by
        rw [isBlank_eq_false_iff]
        intro hempty
        rw [hempty] at hsame
        exact isBlank_eq_false_iff.1 hblank (eq_empty_of_sameIgnoringAsciiCase hsame)
      obtain ⟨q, hq, hq'⟩ := h.complete s (List.mem_of_getElem? hs) hblank'
      apply hnew q hq
      rw [sameIgnoringAsciiCase_iff] at hq' hsame ⊢
      exact hq'.trans hsame

/-- One more tag is kept or changes nothing. -/
theorem exists_addTag (h : Preferred given placed) (tag : String) :
    ∃ placed', Preferred (given ++ [tag]) placed' ∧
      addTag (placed.map Prod.snd) tag = placed'.map Prod.snd := by
  by_cases hblank : Text.isBlank tag
  · refine ⟨placed, h.skip fun hfalse => ?_, addTag_of_isBlank _ hblank⟩
    rw [hblank] at hfalse
    cases hfalse
  · have hblank : Text.isBlank tag = false := by simpa using hblank
    by_cases hold : ∃ p ∈ placed, Text.sameIgnoringAsciiCase p.2 (Text.trim tag)
    · obtain ⟨p, hp, hsame⟩ := hold
      exact ⟨placed, h.skip fun _ => ⟨p, hp, hsame⟩, addTag_of_mem (List.mem_map_of_mem hp) hsame⟩
    · have hnew : ∀ p ∈ placed, ¬Text.sameIgnoringAsciiCase p.2 (Text.trim tag) :=
        fun p hp hsame => hold ⟨p, hp, hsame⟩
      refine ⟨_, h.keep hblank hnew, ?_⟩
      rw [addTag_of_not_mem hblank, List.map_append]
      · rfl
      · rwa [List.forall_mem_map]

end Preferred

theorem exists_preferred_foldl_addTag (given : List String) :
    ∃ placed, Preferred given placed ∧ given.foldl addTag [] = placed.map Prod.snd := by
  induction given using List.reverseRecOn with
  | nil => exact ⟨[], .nil, rfl⟩
  | append_singleton given tag ih =>
    obtain ⟨placed, hplaced, heq⟩ := ih
    rw [List.foldl_append, heq, List.foldl_cons, List.foldl_nil]
    exact hplaced.exists_addTag tag

/-! Detection. -/

/-- A tag stands in a list as the first of those with the highest score. -/
def EarliestBest (score : String → Nat) (tags : List String) (tag : String) : Prop :=
  ∃ before after, tags = before ++ tag :: after ∧ (∀ t ∈ before, score t < score tag) ∧
    ∀ t ∈ after, score t ≤ score tag

/-- The better of the best so far and one more tag, each with its score. -/
def better (score : String → Nat) (best : String × Nat) (tag : String) : String × Nat :=
  if best.2 < score tag then (tag, score tag) else best

theorem earliestBest_foldl_better (score : String → Nat) (rest : List String)
    (h : EarliestBest score seen tag) :
    ∃ best, rest.foldl (better score) (tag, score tag) = (best, score best) ∧
      EarliestBest score (seen ++ rest) best := by
  induction rest generalizing seen tag with
  | nil => exact ⟨tag, rfl, by rwa [List.append_nil]⟩
  | cons t rest ih =>
    obtain ⟨before, after, rfl, hbefore, hafter⟩ := h
    rw [List.foldl_cons, better, List.append_cons]
    split
    · rename_i hlt
      apply ih
      refine ⟨before ++ tag :: after, [], rfl, ?_, List.forall_mem_nil _⟩
      rw [List.forall_mem_append, List.forall_mem_cons]
      exact ⟨fun s hs => (hbefore s hs).trans hlt, hlt, fun s hs => (hafter s hs).trans_lt hlt⟩
    · rename_i hge
      apply ih
      refine ⟨before, after ++ [t], by simp, hbefore, ?_⟩
      rw [List.forall_mem_append, List.forall_mem_singleton]
      exact ⟨hafter, not_lt.1 hge⟩

/-- The first candidate takes part with its score, though the search starts from it without one. -/
theorem better_first (score : String → Nat) (first : String) :
    better score (first, 0) first = (first, score first) := by
  unfold better
  split
  · rfl
  · rename_i hzero
    rw [Nat.eq_zero_of_not_pos hzero]

theorem exists_detect (d : Detector) (text : String) (first : String) (rest : List String) :
    ∃ tag, d.detect text (first :: rest) = some tag ∧
      EarliestBest (d.scoreFor ((Text.words text).map Text.lowercase)) (first :: rest) tag := by
  let score := d.scoreFor ((Text.words text).map Text.lowercase)
  have hfirst : EarliestBest score [first] first :=
    ⟨[], [], rfl, List.forall_mem_nil _, List.forall_mem_nil _⟩
  obtain ⟨best, hbest, hearliest⟩ := earliestBest_foldl_better score rest hfirst
  refine ⟨best, ?_, hearliest⟩
  change some ((first :: rest).foldl (better score) (first, 0)).1 = some best
  rw [List.foldl_cons, better_first, hbest]

/-- The scorer of a locale is the last one for its base language, in letters of either case. -/
def scorerOf (scorers : List Scorer) (locale : String) : Option Scorer :=
  scorers.reverse.find? fun s => Text.sameIgnoringAsciiCase s.language (baseLanguage locale)

/-- The score of words by the scorer of a locale, zero without one. -/
def scoreBy (scorers : List Scorer) (words : List String) (locale : String) : Nat :=
  ((scorerOf scorers locale).map fun s => s.score words).getD 0

/-- The detector with some scorers, of which later ones replace earlier ones for the same language. -/
def Detector.ofScorers (scorers : List Scorer) : Detector :=
  scorers.foldl withScorer empty

theorem get?_ofScorers (scorers : List Scorer) (locale : String) :
    (Detector.ofScorers scorers).scorers.get? (baseLanguage locale).toLower = scorerOf scorers locale := by
  induction scorers using List.reverseRecOn with
  | nil => rfl
  | append_singleton scorers s ih =>
    have hlast : Detector.ofScorers (scorers ++ [s]) = (Detector.ofScorers scorers).withScorer s := by
      rw [Detector.ofScorers, List.foldl_append]
      rfl
    rw [hlast, Detector.withScorer, OrderedMap.get?_insert, scorerOf, List.reverse_append,
      List.reverse_singleton, List.singleton_append, List.find?_cons, ih]
    by_cases h : (baseLanguage locale).toLower = s.language.toLower
    · rw [if_pos h, sameIgnoringAsciiCase_iff.2 h.symm]
    · have hother : Text.sameIgnoringAsciiCase s.language (baseLanguage locale) = false := by
        rw [← Bool.not_eq_true, sameIgnoringAsciiCase_iff]
        exact fun heq => h heq.symm
      rw [if_neg h, hother]
      rfl

theorem scoreFor_ofScorers (scorers : List Scorer) (words : List String) :
    (Detector.ofScorers scorers).scoreFor words = scoreBy scorers words := by
  funext locale
  rw [Detector.scoreFor, scoreBy, get?_ofScorers]
  cases scorerOf scorers locale <;> rfl

/-- The candidates are the tags offered, in the order in which they are first met, and of candidates the
first of those with the highest score is detected. -/
theorem detect_candidates (explicit : Option String) (active : String) (fallbacks : List String)
    (scorers : List Scorer) (text : String) :
    (∃ placed, Preferred (offered explicit active fallbacks) placed ∧
      candidates explicit active fallbacks = placed.map Prod.snd) ∧
      ∀ tags ≠ [], ∃ tag, (Detector.ofScorers scorers).detect text tags = some tag ∧
        EarliestBest (scoreBy scorers ((Text.words text).map Text.lowercase)) tags tag := by
  refine ⟨exists_preferred_foldl_addTag _, fun tags hne => ?_⟩
  obtain ⟨first, rest, rfl⟩ := List.exists_cons_of_ne_nil hne
  have hdetect := exists_detect (Detector.ofScorers scorers) text first rest
  rwa [scoreFor_ofScorers] at hdetect

/-- Spanish words are best for two of the candidates, and the first of these is detected. -/
theorem detect_candidates_menu :
    (∃ placed, Preferred ["en-US", "es-CR", "es", "es", "en"] placed ∧
      ["en-US", "es-CR", "es", "en"] = placed.map Prod.snd) ∧
      ["en-US", "es-CR", "es", "en"] ≠ [] ∧
      (Detector.ofScorers [Hints.spanish.scorer, Hints.english.scorer]).detect "abre el menú"
        ["en-US", "es-CR", "es", "en"] = some "es-CR" ∧
      EarliestBest (scoreBy [Hints.spanish.scorer, Hints.english.scorer] ["abre", "el", "menú"])
        ["en-US", "es-CR", "es", "en"] "es-CR" := by
  have hcandidates : candidates (some "en-US") "es-CR" ["es", "en"] = ["en-US", "es-CR", "es", "en"] := by
    decide +kernel
  have hwords : (Text.words "abre el menú").map Text.lowercase = ["abre", "el", "menú"] := by
    decide +kernel
  have hdetected : (Detector.ofScorers [Hints.spanish.scorer, Hints.english.scorer]).detect "abre el menú"
      ["en-US", "es-CR", "es", "en"] = some "es-CR" := by
    decide +kernel
  have hoffered : offered (some "en-US") "es-CR" ["es", "en"] = ["en-US", "es-CR", "es", "es", "en"] := by
    decide +kernel
  obtain ⟨hpreferred, hdetect⟩ := detect_candidates (some "en-US") "es-CR" ["es", "en"]
    [Hints.spanish.scorer, Hints.english.scorer] "abre el menú"
  rw [hcandidates, hoffered] at hpreferred
  obtain ⟨tag, htag, hbest⟩ := hdetect ["en-US", "es-CR", "es", "en"] (List.cons_ne_nil _ _)
  obtain rfl := Option.some.inj (hdetected.symm.trans htag)
  rw [hwords] at hbest
  exact ⟨hpreferred, List.cons_ne_nil _ _, hdetected, hbest⟩

/-- A tag with a blank before it is not kept as it is. -/
theorem exists_not_mem_candidates :
    ∃ tag ∈ offered (some " fr") "es" [], Text.isBlank tag = false ∧
      ∀ t ∈ candidates (some " fr") "es" [], ¬Text.sameIgnoringAsciiCase t tag := by
  decide +kernel

end Locale

end Parlance
