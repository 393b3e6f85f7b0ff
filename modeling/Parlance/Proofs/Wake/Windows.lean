import Parlance.Proofs.Double.Order
import Parlance.Wake.Gate

/-!
The windows of an utterance that a wake phrase is compared with. Main statements:
`exists_hears_of_detect`, that a match is a window that is good enough, and
`detect_result_eq_none_iff`, that without such a window nothing matches.
-/

namespace Parlance.Wake

open Text

/-! The earliest of the best. -/

section

variable {α : Type} {score : α → Float} {l : List α} {b : α}

theorem earliestBest_append_singleton (score : α → Float) (l : List α) (x : α) :
    earliestBest score (l ++ [x]) =
      match earliestBest score l with
      | none => some x
      | some b => if score b < score x then some x else some b := by
  rw [earliestBest, List.foldl_append]
  rfl

theorem earliestBest_eq_none_iff : earliestBest score l = none ↔ l = [] := by
  induction l using List.reverseRecOn with
  | nil => exact ⟨fun _ => rfl, fun _ => rfl⟩
  | append_singleton l x ih =>
    rw [earliestBest_append_singleton]
    constructor
    · intro h
      split at h
      · cases h
      · split at h <;> cases h
    · intro h
      simp at h

theorem mem_of_earliestBest (h : earliestBest score l = some b) : b ∈ l := by
  induction l using List.reverseRecOn with
  | nil => cases h
  | append_singleton l x ih =>
    rw [earliestBest_append_singleton] at h
    split at h
    · obtain rfl := Option.some.inj h
      exact List.mem_append_right l List.mem_cons_self
    · rename_i a ha
      split at h
      · obtain rfl := Option.some.inj h
        exact List.mem_append_right l List.mem_cons_self
      · obtain rfl := Option.some.inj h
        exact List.mem_append_left [x] (ih ha)

/-- Where the scores are numbers, those before the best are lower, and those behind it are not higher. -/
theorem exists_split_of_earliestBest (hl : ∀ x ∈ l, (score x).isNaN = false)
    (h : earliestBest score l = some b) : ∃ before after, l = before ++ b :: after ∧
      (∀ x ∈ before, score x < score b) ∧ ∀ x ∈ after, score x ≤ score b := by
  induction l using List.reverseRecOn generalizing b with
  | nil => cases h
  | append_singleton l x ih =>
    have hnumber : ∀ y ∈ l, (score y).isNaN = false := fun y hy => hl y (List.mem_append_left _ hy)
    have hx : (score x).isNaN = false := hl x (by simp)
    rw [earliestBest_append_singleton] at h
    split at h
    · rename_i hnone
      obtain rfl := Option.some.inj h
      obtain rfl := earliestBest_eq_none_iff.1 hnone
      exact ⟨[], [], rfl, List.forall_mem_nil _, List.forall_mem_nil _⟩
    · rename_i a ha
      obtain ⟨before, after, rfl, hbefore, hafter⟩ := ih hnumber ha
      have hbest : (score a).isNaN = false := hnumber a (mem_of_earliestBest ha)
      split at h
      · rename_i hlt
        obtain rfl := Option.some.inj h
        refine ⟨before ++ a :: after, [], rfl, ?_, List.forall_mem_nil _⟩
        rw [List.forall_mem_append, List.forall_mem_cons]
        exact ⟨fun y hy => Double.lt_of_lt_of_le (hbefore y hy) (Double.le_of_lt hlt), hlt,
          fun y hy => Double.lt_of_le_of_lt (hafter y hy) hlt⟩
      · rename_i hge
        obtain rfl := Option.some.inj h
        refine ⟨before, after ++ [x], by simp, hbefore, ?_⟩
        rw [List.forall_mem_append, List.forall_mem_singleton]
        exact ⟨hafter, (Double.not_lt_iff_le hbest hx).1 hge⟩

/-- Of scores that are numbers none is higher than that of the best. -/
theorem le_of_earliestBest (hl : ∀ x ∈ l, (score x).isNaN = false)
    (h : earliestBest score l = some b) : ∀ x ∈ l, score x ≤ score b := by
  obtain ⟨before, after, rfl, hbefore, hafter⟩ := exists_split_of_earliestBest hl h
  rw [List.forall_mem_append, List.forall_mem_cons]
  exact ⟨fun x hx => Double.le_of_lt (hbefore x hx), Double.le_refl (hl b (by simp)), hafter⟩

end

/-! Windows. -/

/-- As many of the words as the form has, from one of them on. -/
def window (tokens : List String) (form : String) (start : Nat) : List String :=
  (tokens.drop start).take (formTokens form).length

/-- Where a window for a form may start. -/
structure Fits (o : Options) (tokens : List String) (form : String) (start : Nat) : Prop where
  pos : 0 < (formTokens form).length
  inside : start + (formTokens form).length ≤ tokens.length
  early : start ≤ o.maxCandidates - 1

/-- A window is good enough for a form. -/
structure Hears (o : Options) (tokens : List String) (form : String) (start : Nat) (score : Float)
    (via : Via) : Prop where
  fits : Fits o tokens form start
  scored : windowScore o (unwords (window tokens form start)) (unwords (formTokens form)) =
    some (score, via)
  enough : ¬score < o.minConfidence

/-- The match of a window. -/
def matchAt (tokens : List String) (form : String) (start : Nat) (score : Float) (via : Via) : Match where
  score
  value := trim form
  via
  tokens := ((window tokens form start).zipIdx start).map fun (t, i) => ⟨t, i⟩

@[simp] theorem matchAt_score (tokens : List String) (form : String) (start : Nat) (score : Float)
    (via : Via) : (matchAt tokens form start score via).score = score :=
  rfl

variable {o : Options} {tokens : List String} {form : String} {start : Nat} {score : Float} {via : Via}
  {m : Match}

theorem mem_starts {length available : Nat} : start ∈ starts o length available ↔
    0 < length ∧ start + length ≤ available ∧ start ≤ o.maxCandidates - 1 := by
  unfold starts
  split
  · constructor
    · intro h
      cases h
    · omega
  · rw [List.mem_range]
    omega

theorem mem_formMatches : m ∈ formMatches o tokens form ↔
    ∃ start score via, Hears o tokens form start score via ∧ m = matchAt tokens form start score via := by
  unfold formMatches
  dsimp only
  rw [List.mem_filterMap]
  constructor
  · rintro ⟨start, hstart, h⟩
    obtain ⟨hpos, hinside, hearly⟩ := mem_starts.1 hstart
    split at h
    · cases h
    · rename_i score via hscore
      split at h
      · cases h
      · rename_i henough
        exact ⟨start, score, via, ⟨⟨hpos, hinside, hearly⟩, hscore, henough⟩, (Option.some.inj h).symm⟩
  · rintro ⟨start, score, via, ⟨hfits, hscore, henough⟩, rfl⟩
    refine ⟨start, mem_starts.2 ⟨hfits.pos, hfits.inside, hfits.early⟩, ?_⟩
    unfold window at hscore
    rw [hscore]
    exact if_neg henough

theorem exists_hears_of_compare {input canonical : String} {aliases : List String}
    (h : compare o input canonical aliases = some m) :
    ∃ form ∈ canonical :: aliases, ∃ start score via,
      Hears o (inputTokens input) form start score via ∧
        m = matchAt (inputTokens input) form start score via := by
  obtain ⟨form, hform, hm⟩ := List.mem_flatMap.1 (mem_of_earliestBest h)
  exact ⟨form, hform, mem_formMatches.1 hm⟩

theorem compare_eq_none_iff {input canonical : String} {aliases : List String} :
    compare o input canonical aliases = none ↔ ∀ form ∈ canonical :: aliases, ∀ start score via,
      ¬Hears o (inputTokens input) form start score via := by
  rw [compare, earliestBest_eq_none_iff, List.flatMap_eq_nil_iff]
  apply forall₂_congr
  intro form _
  rw [List.eq_nil_iff_forall_not_mem]
  constructor
  · intro h start score via hhears
    exact h _ (mem_formMatches.2 ⟨start, score, via, hhears, rfl⟩)
  · intro h m hm
    obtain ⟨start, score, via, hhears, -⟩ := mem_formMatches.1 hm
    exact h start score via hhears

/-- Where the scores of all windows are numbers, none is higher than that of the match. -/
theorem exists_compare_of_hears {input canonical : String} {aliases : List String}
    (hnumber : ∀ form ∈ canonical :: aliases, ∀ start score via,
      Hears o (inputTokens input) form start score via → score.isNaN = false)
    (hform : form ∈ canonical :: aliases) (h : Hears o (inputTokens input) form start score via) :
    ∃ m, compare o input canonical aliases = some m ∧ score ≤ m.score := by
  have hmem : matchAt (inputTokens input) form start score via ∈
      (canonical :: aliases).flatMap (formMatches o (inputTokens input)) :=
    List.mem_flatMap.2 ⟨form, hform, mem_formMatches.2 ⟨start, score, via, h, rfl⟩⟩
  cases hbest : compare o input canonical aliases with
  | none =>
    rw [compare, earliestBest_eq_none_iff] at hbest
    rw [hbest] at hmem
    cases hmem
  | some m =>
    have hnumbers : ∀ m' ∈ (canonical :: aliases).flatMap (formMatches o (inputTokens input)),
        m'.score.isNaN = false := by
      intro m' hm'
      obtain ⟨form', hform', hm'⟩ := List.mem_flatMap.1 hm'
      obtain ⟨start', score', via', hhears, rfl⟩ := mem_formMatches.1 hm'
      exact hnumber form' hform' start' score' via' hhears
    have hle := le_of_earliestBest hnumbers hbest _ hmem
    rw [matchAt_score] at hle
    exact ⟨m, rfl, hle⟩

/-- What a phrase may be said as. -/
def Entry.forms (e : Entry) : List String :=
  e.canonical :: e.aliases

/-- An entry takes a window of an utterance for one of its forms. -/
structure Entry.Hears (e : Entry) (l : Listening) (locale utterance form : String) (start : Nat)
    (score : Float) (via : Via) : Prop where
  mem : form ∈ e.forms
  hears : Wake.Hears (l.options locale e.minConfidence) (inputTokens utterance) form start score via

variable {l : Listening} {locale utterance : String} {entries : List Entry}

/-- The best match of each entry. -/
def entryMatches (l : Listening) (locale : String) (entries : List Entry) (utterance : String) :
    List (Entry × Match) :=
  entries.filterMap fun e =>
    (compare (l.options locale e.minConfidence) utterance e.canonical e.aliases).map (e, ·)

theorem detect_eq (l : Listening) (locale : String) (entries : List Entry) (utterance : String) :
    let best := earliestBest (·.2.score) (entryMatches l locale entries utterance)
    detect l locale entries utterance =
      ⟨entries.isEmpty || best.isSome, best.map Prod.fst, best.map Prod.snd⟩ := by
  intro best
  unfold detect
  split
  · rename_i hempty
    obtain rfl := List.isEmpty_iff.1 hempty
    rfl
  · rename_i hne
    rw [Bool.not_eq_true] at hne
    rw [hne]
    dsimp only
    split
    · rename_i heq
      rw [show best = some _ from heq]
      rfl
    · rename_i heq
      rw [show best = none from heq]
      rfl

theorem detect_result (l : Listening) (locale : String) (entries : List Entry) (utterance : String) :
    (detect l locale entries utterance).result =
      (earliestBest (·.2.score) (entryMatches l locale entries utterance)).map Prod.snd := by
  rw [detect_eq]

theorem detect_entry (l : Listening) (locale : String) (entries : List Entry) (utterance : String) :
    (detect l locale entries utterance).entry =
      (earliestBest (·.2.score) (entryMatches l locale entries utterance)).map Prod.fst := by
  rw [detect_eq]

/-- The gate stays shut only where there are phrases and none of them matches. -/
theorem detect_matched_eq_false_iff : (detect l locale entries utterance).matched = false ↔
    entries ≠ [] ∧ (detect l locale entries utterance).result = none := by
  rw [detect_eq]
  simp

/-- A match is a window that some entry takes for one of its forms. -/
theorem exists_hears_of_detect (h : (detect l locale entries utterance).result = some m) :
    ∃ e ∈ entries, ∃ form start score via, e.Hears l locale utterance form start score via ∧
      m = matchAt (inputTokens utterance) form start score via := by
  rw [detect_result] at h
  obtain ⟨⟨e, m'⟩, hbest, rfl⟩ := Option.map_eq_some_iff.1 h
  obtain ⟨e', he', hm⟩ := List.mem_filterMap.1 (mem_of_earliestBest hbest)
  obtain ⟨m'', hcompare, hpair⟩ := Option.map_eq_some_iff.1 hm
  obtain ⟨rfl, rfl⟩ := Prod.mk.inj hpair
  obtain ⟨form, hform, start, score, via, hhears, hmatch⟩ := exists_hears_of_compare hcompare
  exact ⟨e', he', form, start, score, via, ⟨hform, hhears⟩, hmatch⟩

theorem detect_matched (h : (detect l locale entries utterance).result = some m) :
    (detect l locale entries utterance).matched = true := by
  by_contra hclosed
  rw [Bool.not_eq_true, detect_matched_eq_false_iff, h] at hclosed
  cases hclosed.2

/-- Where the scores of all windows are numbers, none is higher than that of the match. -/
theorem exists_detect_of_hears {e : Entry}
    (hnumber : ∀ e ∈ entries, ∀ form start score via,
      e.Hears l locale utterance form start score via → score.isNaN = false)
    (he : e ∈ entries) (h : e.Hears l locale utterance form start score via) :
    ∃ m, (detect l locale entries utterance).result = some m ∧ score ≤ m.score := by
  have hforms : ∀ e ∈ entries, ∀ form ∈ e.forms, ∀ start score via,
      Wake.Hears (l.options locale e.minConfidence) (inputTokens utterance) form start score via →
        score.isNaN = false :=
    fun e he form hform start score via hhears => hnumber e he form start score via ⟨hform, hhears⟩
  obtain ⟨m, hm, hle⟩ := exists_compare_of_hears (hforms e he) h.mem h.hears
  have hmem : (e, m) ∈ entryMatches l locale entries utterance :=
    List.mem_filterMap.2 ⟨e, he, by rw [hm]; rfl⟩
  rw [detect_result]
  cases hbest : earliestBest (·.2.score) (entryMatches l locale entries utterance) with
  | none =>
    rw [earliestBest_eq_none_iff.1 hbest] at hmem
    cases hmem
  | some best =>
    have hnumbers : ∀ p ∈ entryMatches l locale entries utterance, p.2.score.isNaN = false := by
      intro p hp
      obtain ⟨e', he', hp⟩ := List.mem_filterMap.1 hp
      obtain ⟨m', hm', rfl⟩ := Option.map_eq_some_iff.1 hp
      obtain ⟨form', hform', start', score', via', hhears, rfl⟩ := exists_hears_of_compare hm'
      exact hforms e' he' form' hform' start' score' via' hhears
    exact ⟨best.2, rfl, Double.le_trans hle (le_of_earliestBest hnumbers hbest (e, m) hmem)⟩

/-- Nothing matches where no entry takes any window for one of its forms. -/
theorem detect_result_eq_none_iff : (detect l locale entries utterance).result = none ↔
    ∀ e ∈ entries, ∀ form start score via, ¬e.Hears l locale utterance form start score via := by
  rw [detect_result, Option.map_eq_none_iff, earliestBest_eq_none_iff, entryMatches,
    List.filterMap_eq_nil_iff]
  apply forall₂_congr
  intro e _
  rw [Option.map_eq_none_iff, compare_eq_none_iff]
  constructor
  · intro h form start score via hhears
    exact h form hhears.mem start score via hhears.hears
  · intro h form hform start score via hhears
    exact h form start score via ⟨hform, hhears⟩

end Parlance.Wake
