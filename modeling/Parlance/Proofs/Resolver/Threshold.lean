import Parlance.Proofs.Ranking.Admission
import Parlance.Proofs.Resolver.Likeness

/-!
Resolvers with a lower threshold. Main statement: `resolved_withThreshold_after`, that what is resolved
under a threshold is resolved under any lower one, by a candidate with no lower score.
-/

namespace Parlance

def Settings.withThreshold (s : Settings) (threshold : Float) : Settings :=
  { s with matching := s.matching.withThreshold threshold }

namespace Resolver

open Ranking

theorem shares_of_create {settings : Settings} {lex : Lexicon} {r : Resolver}
    (h : create settings lex = .ok r) : settings.matching.Shares := by
  unfold create at h
  split at h
  · cases h
  · rename_i hfault
    exact Matching.shares_of_fault? (Settings.fault?_eq_none_iff.1 hfault).2.1

variable {m : Matching} {u : Text.Normalized} {context : Slot.Context} {is : List Intent}

/-- No accepted candidate of a ranking has a higher score than the first one. -/
theorem FirstAccepted.score_le {passed : List Candidate} {c d : Candidate}
    (h : FirstAccepted m u context (rank m u is) passed d) (hc : c ∈ rank m u is)
    (hq : Qualifies m c) (haccepted : Accepted u context c) : c.score ≤ d.score := by
  obtain ⟨i, -, hi⟩ := mem_rank.1 hc
  have hrefl : c.score ≤ c.score := Double.le_refl (candidate?_score_isNaN hi)
  have hsorted := pairwise_rank m u is c.score
  obtain ⟨rest, hrank⟩ := h.mem
  rw [hrank] at hc hsorted
  rcases List.mem_append.1 hc with hpassed | hbehind
  · exact absurd haccepted (h.passed c hpassed hq)
  · rcases List.mem_cons.1 hbehind with rfl | hrest
    · exact hrefl
    · have hbefore := (List.pairwise_cons.1 (List.pairwise_append.1 hsorted).2.1).1
      exact hbefore c hrest hrefl

variable {threshold threshold' : Float}

/-- The accepted candidate stays one. Those that a lower threshold admits besides it may come before
it, and then one of them is taken. -/
theorem walk_withThreshold (h : (m.withThreshold threshold).Shares)
    (h' : (m.withThreshold threshold').Shares) (hle : threshold ≤ threshold') {trace : Trace}
    {inv : Invocation}
    (hres : (walk (m.withThreshold threshold') u context (rank (m.withThreshold threshold') u is)
      trace).1 = .resolved inv) (trace' : Trace) :
    ∃ inv', (walk (m.withThreshold threshold) u context (rank (m.withThreshold threshold) u is)
        trace').1 = .resolved inv' ∧ inv.provenance.score ≤ inv'.provenance.score := by
  obtain ⟨c, hc, hq, haccepted, rfl, -⟩ := exists_candidate_of_walk hres
  have hmem := mem_rank_withThreshold h h' hle hc
  have hlower : Qualifies (m.withThreshold threshold) c := Double.le_trans hle hq
  obtain ⟨passed, d, hfirst⟩ := exists_firstAccepted ⟨c, hmem, hlower, haccepted⟩
  refine ⟨_, (walk_rank_of_firstAccepted hfirst trace').1, ?_⟩
  rw [Invocation.provenance_of, Invocation.provenance_of]
  exact hfirst.score_le hmem hlower haccepted

theorem resolveAmong_withThreshold {r r' : Resolver} {settings : Settings}
    (hhigh : r.settings = settings.withThreshold threshold')
    (hlow : r'.settings = settings.withThreshold threshold)
    (h : (settings.matching.withThreshold threshold).Shares)
    (h' : (settings.matching.withThreshold threshold').Shares) (hle : threshold ≤ threshold')
    {lex lex' : Lexicon} (hlex : lex.packs = lex'.packs) {today : Calendar.Date}
    {locale content : String} {trace : Trace} {inv : Invocation}
    (hres : (r.resolveAmong lex today locale content is trace).1 = .resolved inv) (trace' : Trace) :
    ∃ inv', (r'.resolveAmong lex' today locale content is trace').1 = .resolved inv' ∧
      inv.provenance.score ≤ inv'.provenance.score := by
  unfold resolveAmong at hres ⊢
  rw [Text.normalize_congr hlex, hhigh] at hres
  rw [hlow]
  exact walk_withThreshold h h' hle hres _

end Resolver

namespace Session

open Resolver

/-- What is resolved under a threshold is resolved under a lower one, with no lower score, by a resolver
with the same specs, words and active locale, and the same settings but for the threshold. -/
theorem resolved_withThreshold_after {settings : Settings} {threshold threshold' : Float}
    (hle : threshold ≤ threshold') {lex lex' : Lexicon} {r r' : Resolver}
    (h : Resolver.create (settings.withThreshold threshold') lex = .ok r)
    (h' : Resolver.create (settings.withThreshold threshold) lex' = .ok r')
    (detector : Locale.Detector) (ops ops' : List Operation) :
    let s := (start r detector).after intentsFor ops
    let s' := (start r' detector).after intentsFor ops'
    s.resolver.specs = s'.resolver.specs → s.resolver.activeLocale = s'.resolver.activeLocale →
      ∀ age age', (s.snapshot age).packs = (s'.snapshot age').packs →
        ∀ today utterance explicit inv t,
          (s.step intentsFor (.resolve today utterance explicit age)).1 =
            .outcome (.ok (.resolved inv, t)) →
          ∃ inv' t', (s'.step intentsFor (.resolve today utterance explicit age')).1 =
              .outcome (.ok (.resolved inv', t')) ∧
            inv.provenance.score ≤ inv'.provenance.score := by
  intro s s' hspecs hactive age age' hlex today utterance explicit inv t hres
  have hhigh : MadeFrom _ _ s := madeFrom_after h detector ops
  have hlow : MadeFrom _ _ s' := madeFrom_after h' detector ops'
  obtain ⟨locale, content, is, trace, hwalk, hresolved⟩ :=
    hhigh.exists_resolveAmong_of_resolved hlow rfl rfl hspecs hactive hlex hres
  obtain ⟨inv', hwalk', hscore⟩ := resolveAmong_withThreshold hhigh.settings hlow.settings
    (shares_of_create h') (shares_of_create h) hle hlex hwalk trace
  obtain ⟨t', hres'⟩ := hresolved inv' hwalk'
  exact ⟨inv', t', hres', hscore⟩

/-- A phrase like the one that is said, under a threshold that it reaches and a lower one. -/
theorem resolved_withThreshold_after_registerAll :
    let ops : List Operation := [.registerAll [.saying "cancelAll" "cancelar"]]
    let r : Resolver := { Resolver.plain with settings := ({} : Settings).withThreshold 0.85 }
    let r' : Resolver := { Resolver.plain with settings := ({} : Settings).withThreshold 0.5 }
    let s := (start r .standard).after intentsFor ops
    let s' := (start r' .standard).after intentsFor ops
    let said := Operation.resolve ⟨2024, 5, 1, by decide⟩ "cancela" none 0
    (0.5 : Float) ≤ 0.85 ∧
      Resolver.create (({} : Settings).withThreshold 0.85) .empty = .ok r ∧
      Resolver.create (({} : Settings).withThreshold 0.5) .empty = .ok r' ∧
      s.resolver.specs = s'.resolver.specs ∧ s.resolver.activeLocale = s'.resolver.activeLocale ∧
      (s.snapshot 0).packs = (s'.snapshot 0).packs ∧
      ∃ inv t inv' t', (s.step intentsFor said).1 = .outcome (.ok (.resolved inv, t)) ∧
        (s'.step intentsFor said).1 = .outcome (.ok (.resolved inv', t')) ∧
        inv.provenance.score ≤ inv'.provenance.score := by
  intro ops r r' s s' said
  have hle : (0.5 : Float) ≤ 0.85 := by decide
  have hhigh : Resolver.create (({} : Settings).withThreshold 0.85) .empty = .ok r := rfl
  have hlow : Resolver.create (({} : Settings).withThreshold 0.5) .empty = .ok r' := rfl
  have hspecs : s.resolver.specs = s'.resolver.specs := by with_unfolding_all rfl
  have hactive : s.resolver.activeLocale = s'.resolver.activeLocale := by with_unfolding_all rfl
  have hempty : (s.snapshot 0).packs = Lexicon.empty.packs := by with_unfolding_all rfl
  have hempty' : (s'.snapshot 0).packs = Lexicon.empty.packs := by with_unfolding_all rfl
  have hlex : (s.snapshot 0).packs = (s'.snapshot 0).packs := hempty.trans hempty'.symm
  obtain ⟨inv, t, hres⟩ : ∃ inv t, (s.step intentsFor said).1 = .outcome (.ok (.resolved inv, t)) :=
    Answer.exists_resolved (by decide +kernel)
  obtain ⟨inv', t', hres', hscore⟩ := resolved_withThreshold_after hle hhigh hlow .standard ops ops
    hspecs hactive 0 0 hlex _ _ _ inv t hres
  exact ⟨hle, hhigh, hlow, hspecs, hactive, hlex, inv, t, inv', t', hres, hres', hscore⟩

end Session

end Parlance
