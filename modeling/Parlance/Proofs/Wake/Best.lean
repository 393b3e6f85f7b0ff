import Parlance.Proofs.Wake.Verbatim

/-!
The match is the best window. Main statement: `finds_best`, that a phrase is heard exactly where a window
is good enough for one of its forms, that the match is the first window with the highest score, and that
of several entries the first one with the highest match is taken.
-/

namespace Parlance.Wake

open Text Double

/-- A window of an input counts for a form: it has as many words as the form, starts at one of the first
words, and its score is high enough. -/
structure Qualifies (o : Options) (input form : String) (start : Nat) (score : Float) (via : Via) :
    Prop where
  nonempty : formTokens form ≠ []
  inside : start + (formTokens form).length ≤ (inputTokens input).length
  early : start < o.maxCandidates
  scored : windowScore o (unwords (window (inputTokens input) form start)) (unwords (formTokens form)) =
    some (score, via)
  enough : o.minConfidence ≤ score

/-- The best of the windows that count for some forms: no score is higher, and where another one is as
high, its form comes later or it starts later. -/
structure Best (o : Options) (input : String) (forms : List String) (k : Nat) (form : String)
    (start : Nat) (score : Float) (via : Via) : Prop where
  listed : forms[k]? = some form
  qualifies : Qualifies o input form start score via
  highest : ∀ (k' : Nat) form' start' score' via', forms[k']? = some form' →
    Qualifies o input form' start' score' via' → score' ≤ score
  earliest : ∀ (k' : Nat) form' start' score' via', forms[k']? = some form' →
    Qualifies o input form' start' score' via' → score ≤ score' → k < k' ∨ k = k' ∧ start ≤ start'

/-- What comparing an input with some forms comes to. -/
structure Compares (o : Options) (input : String) (forms : List String) (result : Option Match) :
    Prop where
  isSome_iff : result.isSome ↔
    ∃ form ∈ forms, ∃ start score via, Qualifies o input form start score via
  best : ∀ m, result = some m → ∃ k form start score via,
    Best o input forms k form start score via ∧ m = matchAt (inputTokens input) form start score via
  share : ∀ m, result = some m → 0.0 ≤ m.score ∧ m.score ≤ 1.0
  /-- Doubles tell likeness from equality where texts are short. -/
  exact : (∃ form ∈ forms, ∃ start, SaysForm o.maxCandidates (inputTokens input) form start) →
    ∃ m, result = some m ∧ m.score = 1.0 ∧
      (Short input → (∀ form ∈ forms, Short form) → m.via = .exact)

/-- What listening for some entries comes to: the first entry with the highest match. -/
structure Detects (l : Listening) (locale : String) (entries : List Entry) (utterance : String)
    (d : Detection) : Prop where
  unmatched_iff : d.matched = false ↔ entries ≠ [] ∧ d.result = none
  result_eq_none_iff : d.result = none ↔ ∀ e ∈ entries,
    compare (l.options locale e.minConfidence) utterance e.canonical e.aliases = none
  best : ∀ m, d.result = some m → ∃ (k : Nat) (e : Entry), entries[k]? = some e ∧ d.entry = some e ∧
    compare (l.options locale e.minConfidence) utterance e.canonical e.aliases = some m ∧
    ∀ (k' : Nat) (e' : Entry) (m' : Match), entries[k']? = some e' →
      compare (l.options locale e'.minConfidence) utterance e'.canonical e'.aliases = some m' →
        m'.score ≤ m.score ∧ (m.score ≤ m'.score → k ≤ k')

variable {o : Options} {input form : String} {tokens forms : List String} {k start : Nat} {score : Float}
  {via : Via} {m : Match}

/-! The best of what a list is mapped to. -/

/-- The best is what one element is mapped to; those with as high a score come from elements behind. -/
theorem exists_of_earliestBest_filterMap {α β : Type} {score : β → Float} {l : List α}
    {f : α → Option β} {R : α → α → Prop} (hl : l.Pairwise R)
    (hnumber : ∀ x ∈ l, ∀ b, f x = some b → (score b).isNaN = false) {b : β}
    (h : earliestBest score (l.filterMap f) = some b) :
    ∃ x ∈ l, f x = some b ∧ ∀ y ∈ l, ∀ c, f y = some c →
      score c ≤ score b ∧ (score b ≤ score c → y = x ∨ R x y) := by
  have hnumbers : ∀ c ∈ l.filterMap f, (score c).isNaN = false := by
    intro c hc
    obtain ⟨x, hx, hfx⟩ := List.mem_filterMap.1 hc
    exact hnumber x hx c hfx
  obtain ⟨before, after, hsplit, hbefore, hafter⟩ := exists_split_of_earliestBest hnumbers h
  obtain ⟨l₁, l₂, rfl, hl₁, hl₂⟩ := List.filterMap_eq_append_iff.1 hsplit
  obtain ⟨none₂, x, l₃, rfl, hnone, hx, hl₃⟩ := List.filterMap_eq_cons_iff.1 hl₂
  have hbehind : ∀ y ∈ l₃, R x y :=
    (List.pairwise_cons.1 (List.pairwise_append.1 (List.pairwise_append.1 hl).2.1).2.1).1
  refine ⟨x, by simp, hx, fun y hy c hc => ?_⟩
  rw [List.mem_append, List.mem_append, List.mem_cons] at hy
  rcases hy with hy | hy | rfl | hy
  · have hlt := hbefore c (hl₁ ▸ List.mem_filterMap.2 ⟨y, hy, hc⟩)
    obtain ⟨hcNumber, hbNumber⟩ := isNaN_eq_false_of_lt hlt
    exact ⟨Double.le_of_lt hlt, fun hle => absurd hlt ((not_lt_iff_le hcNumber hbNumber).2 hle)⟩
  · rw [hnone y hy] at hc
    cases hc
  · obtain rfl := Option.some.inj (hc.symm.trans hx)
    exact ⟨Double.le_refl (hnumber y (by simp) c hc), fun _ => .inl rfl⟩
  · exact ⟨hafter c (hl₃ ▸ List.mem_filterMap.2 ⟨y, hy, hc⟩), fun _ => .inr (hbehind y hy)⟩

theorem pairwise_snd_zipIdx {α : Type} (l : List α) : l.zipIdx.Pairwise fun x y => x.2 < y.2 := by
  have hrange := List.pairwise_lt_range' (s := 0) (n := l.length) 1
  rwa [← List.zipIdx_map_snd, List.pairwise_map] at hrange

/-! The windows of all forms in order. -/

/-- Where windows may start, with the number of the form before the start. -/
def places (o : Options) (tokens forms : List String) : List (String × Nat × Nat) :=
  forms.zipIdx.flatMap fun (form, k) =>
    (starts o (formTokens form).length tokens.length).map fun start => (form, k, start)

/-- The match of a window for a form, if it is good enough. -/
def heardAt (o : Options) (tokens : List String) (form : String) (start : Nat) : Option Match :=
  match windowScore o (unwords (window tokens form start)) (unwords (formTokens form)) with
  | none => none
  | some (score, via) =>
    if score < o.minConfidence then none else some (matchAt tokens form start score via)

theorem formMatches_eq (o : Options) (tokens : List String) (form : String) :
    formMatches o tokens form =
      (starts o (formTokens form).length tokens.length).filterMap (heardAt o tokens form) :=
  rfl

theorem flatMap_formMatches (o : Options) (tokens forms : List String) :
    forms.flatMap (formMatches o tokens) =
      (places o tokens forms).filterMap fun p => heardAt o tokens p.1 p.2.2 := by
  rw [places, List.filterMap_flatMap]
  conv_lhs => rw [← List.zipIdx_map_fst 0 forms, List.flatMap_map]
  refine List.flatMap_congr fun p _ => ?_
  rw [List.filterMap_map, formMatches_eq]
  rfl

theorem mem_places : (form, k, start) ∈ places o tokens forms ↔
    forms[k]? = some form ∧ Fits o tokens form start := by
  simp only [places, List.mem_flatMap, Prod.exists, List.mem_zipIdx_iff_getElem?, List.mem_map,
    Prod.mk.injEq, mem_starts]
  constructor
  · rintro ⟨_, _, hk, _, ⟨hpos, hinside, hearly⟩, rfl, rfl, rfl⟩
    exact ⟨hk, hpos, hinside, hearly⟩
  · rintro ⟨hk, hpos, hinside, hearly⟩
    exact ⟨form, k, hk, start, ⟨hpos, hinside, hearly⟩, rfl, rfl, rfl⟩

theorem pairwise_places (o : Options) (tokens forms : List String) :
    (places o tokens forms).Pairwise fun p q => p.2.1 < q.2.1 ∨ p.2.1 = q.2.1 ∧ p.2.2 < q.2.2 := by
  rw [places, List.pairwise_flatMap]
  constructor
  · rintro ⟨form, k⟩ -
    rw [List.pairwise_map]
    have hstarts : (starts o (formTokens form).length tokens.length).Pairwise (· < ·) := by
      unfold starts
      split
      · exact .nil
      · exact List.pairwise_lt_range
    exact hstarts.imp fun h => .inr ⟨rfl, h⟩
  · refine (pairwise_snd_zipIdx forms).imp fun {x y} hxy p hp q hq => ?_
    obtain ⟨_, -, rfl⟩ := List.mem_map.1 hp
    obtain ⟨_, -, rfl⟩ := List.mem_map.1 hq
    exact .inl hxy

theorem heardAt_eq_some_iff (hfits : Fits o tokens form start) :
    heardAt o tokens form start = some m ↔
      ∃ score via, Hears o tokens form start score via ∧ m = matchAt tokens form start score via := by
  unfold heardAt
  constructor
  · intro h
    split at h
    · cases h
    · rename_i score via hscore
      split at h
      · cases h
      · rename_i henough
        exact ⟨score, via, ⟨hfits, hscore, henough⟩, (Option.some.inj h).symm⟩
  · rintro ⟨score, via, ⟨-, hscore, henough⟩, rfl⟩
    rw [hscore]
    exact if_neg henough

/-! Scores of windows that are good enough. -/

theorem hears_iff_qualifies (ho : o.fault? = none) (hinput : Storable input) (hform : Storable form) :
    Hears o (inputTokens input) form start score via ↔ Qualifies o input form start score via := by
  obtain ⟨hconfidence, hlimit⟩ := Options.fault?_eq_none_iff.1 ho
  have hnumber := (share_of_isShare hconfidence).amount.isNaN
  constructor
  · intro h
    have hearly := h.fits.early
    have hscore := (h.share hinput hform).amount.isNaN
    exact ⟨List.length_pos_iff.1 h.fits.pos, h.fits.inside, by omega, h.scored,
      (not_lt_iff_le hscore hnumber).1 h.enough⟩
  · intro h
    have hscored : Share score :=
      share_windowScore (folded_window hinput form start) (folded_form hform) (by decide) h.scored
    exact ⟨⟨List.length_pos_iff.2 h.nonempty, h.inside, Nat.le_sub_one_of_lt h.early⟩, h.scored,
      (not_lt_iff_le hscored.amount.isNaN hnumber).2 h.enough⟩

/-! The best window. -/

variable {canonical : String} {aliases : List String}

/-- The match is the best of the windows that are good enough. -/
theorem best_of_compare (ho : o.fault? = none) (hinput : Storable input)
    (hforms : ∀ form ∈ canonical :: aliases, Storable form)
    (h : compare o input canonical aliases = some m) : ∃ k form start score via,
      Best o input (canonical :: aliases) k form start score via ∧
        m = matchAt (inputTokens input) form start score via := by
  have hnumber : ∀ p ∈ places o (inputTokens input) (canonical :: aliases), ∀ m,
      heardAt o (inputTokens input) p.1 p.2.2 = some m → m.score.isNaN = false := by
    rintro ⟨form, k, start⟩ hp m hm
    obtain ⟨hlisted, hfits⟩ := mem_places.1 hp
    obtain ⟨score, via, hhears, rfl⟩ := (heardAt_eq_some_iff hfits).1 hm
    exact (hhears.share hinput (hforms form (List.mem_of_getElem? hlisted))).amount.isNaN
  rw [compare, flatMap_formMatches] at h
  obtain ⟨⟨form, k, start⟩, hplace, hheard, hbest⟩ :=
    exists_of_earliestBest_filterMap (pairwise_places _ _ _) hnumber h
  obtain ⟨hlisted, hfits⟩ := mem_places.1 hplace
  obtain ⟨score, via, hhears, rfl⟩ := (heardAt_eq_some_iff hfits).1 hheard
  have hother {k' : Nat} {form' : String} {start' : Nat} {score' : Float} {via' : Via}
      (hlisted' : (canonical :: aliases)[k']? = some form')
      (hqualifies : Qualifies o input form' start' score' via') :
      score' ≤ score ∧ (score ≤ score' →
        (form', k', start') = (form, k, start) ∨ (k < k' ∨ k = k' ∧ start < start')) := by
    have hhears' := (hears_iff_qualifies ho hinput
      (hforms form' (List.mem_of_getElem? hlisted'))).2 hqualifies
    have hheard' := (heardAt_eq_some_iff hhears'.fits).2 ⟨score', via', hhears', rfl⟩
    have hplace' := mem_places.2 ⟨hlisted', hhears'.fits⟩
    have hle := hbest (form', k', start') hplace' _ hheard'
    rw [matchAt_score, matchAt_score] at hle
    exact hle
  refine ⟨k, form, start, score, via, ⟨hlisted, ?_, ?_, ?_⟩, rfl⟩
  · exact (hears_iff_qualifies ho hinput (hforms form (List.mem_of_getElem? hlisted))).1 hhears
  · intro k' form' start' score' via' hlisted' hqualifies
    exact (hother hlisted' hqualifies).1
  · intro k' form' start' score' via' hlisted' hqualifies hle
    rcases (hother hlisted' hqualifies).2 hle with hsame | hbehind | ⟨hk, hstart⟩
    · obtain ⟨-, rfl, rfl⟩ := hsame
      exact .inr ⟨rfl, Nat.le_refl _⟩
    · exact .inl hbehind
    · exact .inr ⟨hk, Nat.le_of_lt hstart⟩

theorem isSome_compare_iff (ho : o.fault? = none) (hinput : Storable input)
    (hforms : ∀ form ∈ canonical :: aliases, Storable form) :
    (compare o input canonical aliases).isSome ↔
      ∃ form ∈ canonical :: aliases, ∃ start score via, Qualifies o input form start score via := by
  rw [Option.isSome_iff_exists]
  constructor
  · rintro ⟨m, hm⟩
    obtain ⟨form, hform, start, score, via, hhears, -⟩ := exists_hears_of_compare hm
    exact ⟨form, hform, start, score, via, (hears_iff_qualifies ho hinput (hforms form hform)).1 hhears⟩
  · rintro ⟨form, hform, start, score, via, hqualifies⟩
    have hhears := (hears_iff_qualifies ho hinput (hforms form hform)).2 hqualifies
    rw [← Option.isSome_iff_exists, Option.isSome_iff_ne_none]
    intro hnone
    exact compare_eq_none_iff.1 hnone form hform start score via hhears

theorem share_of_compare (hinput : Storable input) (hforms : ∀ form ∈ canonical :: aliases, Storable form)
    (h : compare o input canonical aliases = some m) : Share m.score := by
  obtain ⟨form, hform, start, score, via, hhears, rfl⟩ := exists_hears_of_compare h
  exact hhears.share hinput (hforms form hform)

/-- Where a window is equal to a form, the score is one, and among short texts only through equality. -/
theorem exists_compare_of_saysForm (ho : o.fault? = none) (hinput : Storable input)
    (hforms : ∀ form ∈ canonical :: aliases, Storable form) (hform : form ∈ canonical :: aliases)
    (h : SaysForm o.maxCandidates (inputTokens input) form start) :
    ∃ m, compare o input canonical aliases = some m ∧ m.score = 1.0 ∧
      (Short input → (∀ form ∈ canonical :: aliases, Short form) → m.via = .exact) := by
  have hheard := h.hears (Options.fault?_eq_none_iff.1 ho).1
  have hnumber : ∀ form ∈ canonical :: aliases, ∀ start score via,
      Hears o (inputTokens input) form start score via → score.isNaN = false :=
    fun form hform start score via hhears => (hhears.share hinput (hforms form hform)).amount.isNaN
  obtain ⟨m, hm, hle⟩ := exists_compare_of_hears hnumber hform hheard
  have hone := (share_of_compare hinput hforms hm).eq_one hle
  refine ⟨m, hm, hone, fun hshort hshorts => ?_⟩
  obtain ⟨form', hform', start', score', via', hhears', rfl⟩ := exists_hears_of_compare hm
  rcases hhears'.exact_or_lt hshort (hshorts form' hform') with ⟨-, hexact⟩ | ⟨hscore, hlt⟩
  · exact hexact
  · exact absurd hlt ((not_lt_iff_le hscore.amount.isNaN amount_one.isNaN).2 hle)

theorem compares (ho : o.fault? = none) (hinput : Storable input)
    (hforms : ∀ form ∈ canonical :: aliases, Storable form) :
    Compares o input (canonical :: aliases) (compare o input canonical aliases) where
  isSome_iff := isSome_compare_iff ho hinput hforms
  best := by
    intro m hm
    exact best_of_compare ho hinput hforms hm
  share := by
    intro m hm
    have hshare := share_of_compare hinput hforms hm
    exact ⟨hshare.zero_le, hshare.le_one⟩
  exact := by
    rintro ⟨form, hform, start, hsays⟩
    exact exists_compare_of_saysForm ho hinput hforms hform hsays

/-! The best entry. -/

variable {l : Listening} {locale utterance : String} {entries : List Entry}

theorem entryMatches_eq (l : Listening) (locale : String) (entries : List Entry) (utterance : String) :
    entryMatches l locale entries utterance = entries.zipIdx.filterMap fun p =>
      (compare (l.options locale p.1.minConfidence) utterance p.1.canonical p.1.aliases).map (p.1, ·) := by
  conv_lhs => rw [entryMatches, ← List.zipIdx_map_fst 0 entries, List.filterMap_map]
  rfl

theorem detects (hutterance : Storable utterance) (hforms : ∀ e ∈ entries, ∀ form ∈ e.forms, Storable form) :
    Detects l locale entries utterance (detect l locale entries utterance) where
  unmatched_iff := detect_matched_eq_false_iff
  result_eq_none_iff := by
    rw [detect_result, Option.map_eq_none_iff, earliestBest_eq_none_iff, entryMatches,
      List.filterMap_eq_nil_iff]
    simp only [Option.map_eq_none_iff]
  best := by
    intro m hm
    have hnumber : ∀ p ∈ entries.zipIdx, ∀ q,
        (compare (l.options locale p.1.minConfidence) utterance p.1.canonical p.1.aliases).map (p.1, ·) =
          some q → q.2.score.isNaN = false := by
      rintro ⟨e, k⟩ hp q hq
      obtain ⟨m, hm, rfl⟩ := Option.map_eq_some_iff.1 hq
      have he := List.mem_of_getElem? (List.mem_zipIdx_iff_getElem?.1 hp)
      exact (share_of_compare hutterance (hforms e he) hm).amount.isNaN
    rw [detect_result, Option.map_eq_some_iff] at hm
    obtain ⟨⟨e, m⟩, hbest, rfl⟩ := hm
    rw [detect_entry, hbest]
    rw [entryMatches_eq] at hbest
    obtain ⟨⟨e', k⟩, hmem, heq, hothers⟩ :=
      exists_of_earliestBest_filterMap (pairwise_snd_zipIdx entries) hnumber hbest
    obtain ⟨m', hcompare, hpair⟩ := Option.map_eq_some_iff.1 heq
    obtain ⟨rfl, rfl⟩ := Prod.mk.inj hpair
    refine ⟨k, e', List.mem_zipIdx_iff_getElem?.1 hmem, rfl, hcompare, ?_⟩
    intro k' e'' m'' hlisted hm''
    obtain ⟨hle, hties⟩ := hothers (e'', k') (List.mem_zipIdx_iff_getElem?.2 hlisted) (e'', m'')
      (Option.map_eq_some_iff.2 ⟨m'', hm'', rfl⟩)
    refine ⟨hle, fun hge => ?_⟩
    rcases hties hge with hsame | hbehind
    · exact (congrArg Prod.snd hsame).ge
    · exact hbehind.le

/-- Comparing and listening find the best window. -/
theorem finds_best (ho : o.fault? = none) (hinput : Storable input)
    (hforms : ∀ form ∈ canonical :: aliases, Storable form)
    (hentries : ∀ e ∈ entries, ∀ form ∈ e.forms, Storable form) :
    Compares o input (canonical :: aliases) (compare o input canonical aliases) ∧
      Detects l locale entries input (detect l locale entries input) :=
  ⟨compares ho hinput hforms, detects hinput hentries⟩

/-- A phrase of two words that may be called by the second one. -/
theorem finds_best_okNura :
    let o : Options := {}
    let e : Entry := ⟨"ok nura", ["nura"], 0.75⟩
    let u := "hey nura abre"
    o.fault? = none ∧ Storable u ∧ (∀ form ∈ e.forms, Storable form) ∧
      Compares o u e.forms (compare o u e.canonical e.aliases) ∧
      Detects {} "es" [e] u (detect {} "es" [e] u) := by
  intro o e u
  have ho : o.fault? = none := Option.isNone_iff_eq_none.1 (by decide +kernel)
  have hu : Storable u := by
    unfold Storable
    decide +kernel
  have hforms : ∀ form ∈ e.forms, Storable form := by
    unfold Storable
    decide +kernel
  have hentries : ∀ e' ∈ [e], ∀ form ∈ e'.forms, Storable form :=
    List.forall_mem_singleton.2 hforms
  exact ⟨ho, hu, hforms, finds_best ho hu hforms hentries⟩

end Parlance.Wake
