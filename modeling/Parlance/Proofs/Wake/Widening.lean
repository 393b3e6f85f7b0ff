import Parlance.Proofs.Wake.Scores

/-!
Comparing with wider options. Main statement: `exists_compare_of_wider`, that more aliases, a lower least
score, more places for a window or more ways to compare never lose a match nor lower its score.
-/

namespace Parlance.Wake

open Text Double

/-- Options that let through what other options do. -/
structure Wider (o o' : Options) : Prop where
  locale : o'.locale = o.locale
  confidence : o'.minConfidence ≤ o.minConfidence
  candidates : o.maxCandidates ≤ o'.maxCandidates
  strategy : o'.strategy = .hybrid ∨ o'.strategy = o.strategy ∨ o.strategy = .exact

variable {o o' : Options} {input form s t : String} {n start : Nat} {score : Float} {via : Via} {m : Match}

/-- The better of the likeness and that of the sounds. -/
theorem exists_windowScore_of_hybrid (hs : Folded n s) (ht : Folded n t) (hn : n ≤ 2 ^ 68)
    (ho : o.strategy = .hybrid) (hne : s ≠ t) : ∃ score via, windowScore o s t = some (score, via) ∧
      similarity s t ≤ score ∧ phoneticScore o.locale s t ≤ score := by
  have hedit := (share_similarity (hs.sized hn) (ht.sized hn)).amount.isNaN
  have hphonetic := (share_phoneticScore hs ht hn o.locale).1.amount.isNaN
  rw [windowScore, if_neg hne]
  simp only [ho]
  split
  · rename_i hlt
    exact ⟨_, _, rfl, Double.le_of_lt hlt, Double.le_refl hphonetic⟩
  · rename_i hge
    exact ⟨_, _, rfl, Double.le_refl hedit, (not_lt_iff_le hedit hphonetic).1 hge⟩

namespace Wider

/-- Wider options score every window that is scored, and none lower. -/
theorem exists_windowScore (h : Wider o o') (hs : Folded n s) (ht : Folded n t) (hn : n ≤ 2 ^ 68)
    (hscore : windowScore o s t = some (score, via)) :
    ∃ score' via', windowScore o' s t = some (score', via') ∧ score ≤ score' := by
  have hnumber := (share_windowScore hs ht hn hscore).amount.isNaN
  by_cases hsame : s = t
  · rw [hsame, windowScore_self] at hscore
    obtain ⟨rfl, -⟩ := Prod.mk.inj (Option.some.inj hscore)
    rw [hsame]
    exact ⟨1.0, .exact, windowScore_self o' t, Double.le_refl hnumber⟩
  · rcases h.strategy with hhybrid | hequal | hexact
    · obtain ⟨score', via', hscore', hedit, hphonetic⟩ :=
        exists_windowScore_of_hybrid hs ht hn hhybrid hsame
      rw [h.locale] at hphonetic
      refine ⟨score', via', hscore', ?_⟩
      rcases score_of_windowScore hsame hscore with rfl | rfl
      · exact hedit
      · exact hphonetic
    · refine ⟨score, via, ?_, Double.le_refl hnumber⟩
      rw [windowScore, h.locale, hequal]
      exact hscore
    · rw [windowScore, if_neg hsame, hexact] at hscore
      cases hscore

theorem exists_hears (h : Wider o o') (hinput : Storable input) (hform : Storable form)
    (hhears : Hears o (inputTokens input) form start score via) :
    ∃ score' via', Hears o' (inputTokens input) form start score' via' ∧ score ≤ score' := by
  have hwindow := folded_window hinput form start
  have hfolded := folded_form hform
  obtain ⟨hlow, hhigh⟩ := isNaN_eq_false_of_le h.confidence
  obtain ⟨score', via', hscore', hle⟩ :=
    h.exists_windowScore hwindow hfolded (by decide) hhears.scored
  obtain ⟨hnumber, hnumber'⟩ := isNaN_eq_false_of_le hle
  have henough : o.minConfidence ≤ score := (not_lt_iff_le hnumber hhigh).1 hhears.enough
  have henough' : o'.minConfidence ≤ score' :=
    Double.le_trans (Double.le_trans h.confidence henough) hle
  have hearly : start ≤ o'.maxCandidates - 1 :=
    hhears.fits.early.trans (Nat.sub_le_sub_right h.candidates 1)
  exact ⟨score', via', ⟨⟨hhears.fits.pos, hhears.fits.inside, hearly⟩, hscore',
    (not_lt_iff_le hnumber' hlow).2 henough'⟩, hle⟩

end Wider

/-- Wider options and more aliases find a match wherever there was one, and none with a lower score. -/
theorem exists_compare_of_wider {canonical : String} {aliases aliases' : List String} (h : Wider o o')
    (haliases : aliases ⊆ aliases') (hinput : Storable input)
    (hforms : ∀ form ∈ canonical :: aliases', Storable form)
    (hm : compare o input canonical aliases = some m) :
    ∃ m', compare o' input canonical aliases' = some m' ∧ m.score ≤ m'.score := by
  obtain ⟨form, hmem, start, score, via, hhears, rfl⟩ := exists_hears_of_compare hm
  have hmem' : form ∈ canonical :: aliases' := List.cons_subset_cons canonical haliases hmem
  obtain ⟨score', via', hhears', hle⟩ := h.exists_hears hinput (hforms form hmem') hhears
  have hnumber : ∀ form ∈ canonical :: aliases', ∀ start score via,
      Hears o' (inputTokens input) form start score via → score.isNaN = false := by
    intro form hform start score via hhears
    exact (hhears.share hinput (hforms form hform)).amount.isNaN
  obtain ⟨m', hm', hle'⟩ := exists_compare_of_hears hnumber hmem' hhears'
  rw [matchAt_score]
  exact ⟨m', hm', Double.le_trans hle hle'⟩

/-- From equality at the first word to the defaults, with an alias more. -/
theorem exists_compare_of_wider_okNura :
    let o : Options := { minConfidence := 1.0, strategy := .exact, maxCandidates := 1 }
    let u := "ok nura abre"
    ∃ m m', Wider o {} ∧ Storable u ∧ (∀ form ∈ ["ok nura", "nura"], Storable form) ∧
      compare o u "ok nura" [] = some m ∧ compare {} u "ok nura" ["nura"] = some m' ∧
      m.score ≤ m'.score := by
  intro o u
  have hwider : Wider o {} := ⟨rfl, by decide, by decide, .inl rfl⟩
  have hu : Storable u := by
    unfold Storable
    decide +kernel
  have hforms : ∀ form ∈ ["ok nura", "nura"], Storable form := by
    unfold Storable
    decide +kernel
  have hfound : (compare o u "ok nura" []).isSome := by decide +kernel
  obtain ⟨m, hm⟩ := Option.isSome_iff_exists.1 hfound
  obtain ⟨m', hm', hle⟩ := exists_compare_of_wider hwider (List.nil_subset ["nura"]) hu hforms hm
  exact ⟨m, m', hwider, hu, hforms, hm, hm', hle⟩

end Parlance.Wake
