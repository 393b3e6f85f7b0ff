import Parlance.Proofs.Ranking.Exact
import Parlance.Proofs.Resolver.Totality

/-!
Resolvers that look for likeness and resolvers that do not. Main statement: `resolved_withFuzzy_after`,
that what is resolved without looking for likeness is resolved to the same action with it.
-/

namespace Parlance

/-! Of a lexicon, the words decide what texts and phrases become, and the revision nothing. -/

section

variable {lex lex' : Lexicon} (h : lex.packs = lex'.packs)

include h

theorem Lexicon.canonical?_congr : lex.canonical? = lex'.canonical? := by
  funext locale term
  unfold canonical? sense? pack
  rw [h]

theorem Text.normalizeWord_congr : normalizeWord lex = normalizeWord lex' := by
  funext locale word
  unfold normalizeWord
  rw [Lexicon.canonical?_congr h]

theorem Text.normalize_congr (locale input : String) :
    normalize lex locale input = normalize lex' locale input := by
  have htokens : ∀ ws length, tokensFrom lex locale length ws = tokensFrom lex' locale length ws := by
    intro ws
    induction ws with
    | nil => exact fun length => rfl
    | cons w ws ih =>
      intro length
      rw [tokensFrom, tokensFrom, normalizeWord_congr h]
      cases normalizeWord lex' locale w.text with
      | none => exact ih length
      | some n => exact congrArg _ (ih _)
  unfold normalize
  rw [htokens]

theorem Template.Draft.add_congr (spec : Spec) (locale : String) :
    Draft.add spec lex locale = Draft.add spec lex' locale := by
  funext d u
  unfold Draft.add Draft.addWord
  rw [Text.normalizeWord_congr h]

theorem Intent.compile_congr (spec : Spec) (phrase : String) (kind : PhraseKind) (locale : String) :
    compile spec phrase kind locale lex = compile spec phrase kind locale lex' := by
  unfold compile
  rw [compileFault_eq, compileFault_eq, Template.Draft.add_congr h]

end

def Matching.withFuzzy (m : Matching) (fuzzy : Bool) : Matching :=
  { m with fuzzy }

def Settings.withFuzzy (s : Settings) (fuzzy : Bool) : Settings :=
  { s with matching := s.matching.withFuzzy fuzzy }

namespace Resolver

open Ranking

variable {m : Matching} {u : Text.Normalized} {context : Slot.Context} {is : List Intent}

/-- An accepted candidate that matches exactly stays the first one when others come in behind. -/
theorem find?_rank_withFuzzy {c : Candidate}
    (h : (rank (m.withFuzzy false) u is).find? (fun c => Qualifies m c ∧ Accepted u context c) =
      some c) :
    (rank (m.withFuzzy true) u is).find? (fun c => Qualifies m c ∧ Accepted u context c) = some c := by
  obtain ⟨rest, hoff, hnil⟩ := exists_rank_eq_append (m.withFuzzy false) u is
  obtain ⟨rest', hon, -⟩ := exists_rank_eq_append (m.withFuzzy true) u is
  rw [hoff, hnil rfl, List.append_nil] at h
  rw [hon, List.find?_append, h]
  rfl

theorem walk_rank_fst (trace : Trace) :
    (walk m u context (rank m u is) trace).1 =
      match (rank m u is).find? fun c => Qualifies m c ∧ Accepted u context c with
      | some c => .resolved
          (.of c.intent.spec (payloadOf u context c) (provenance context.locale c))
      | none => .rejected (if (qualifying m (rank m u is)).isEmpty then .noQualifyingMatch
          else .validationFailed) u.text context.locale := by
  unfold walk
  dsimp only
  rw [findSome?_qualifying]
  cases (rank m u is).find? fun c => Qualifies m c ∧ Accepted u context c <;> rfl

theorem walk_withFuzzy {trace : Trace} {inv : Invocation}
    (h : (walk (m.withFuzzy false) u context (rank (m.withFuzzy false) u is) trace).1 =
      .resolved inv) (trace' : Trace) :
    (walk (m.withFuzzy true) u context (rank (m.withFuzzy true) u is) trace').1 = .resolved inv := by
  rw [walk_rank_fst] at h ⊢
  change (match (rank (m.withFuzzy false) u is).find? fun c => Qualifies m c ∧ Accepted u context c
    with | some c => _ | none => _) = _ at h
  change (match (rank (m.withFuzzy true) u is).find? fun c => Qualifies m c ∧ Accepted u context c
    with | some c => _ | none => _) = _
  cases hfind : (rank (m.withFuzzy false) u is).find? fun c =>
      Qualifies m c ∧ Accepted u context c with
  | none =>
    rw [hfind] at h
    cases h
  | some c =>
    rw [hfind] at h
    rw [find?_rank_withFuzzy hfind]
    exact h

theorem resolveAmong_withFuzzy {r r' : Resolver} {settings : Settings}
    (hoff : r.settings = settings.withFuzzy false) (hon : r'.settings = settings.withFuzzy true)
    {lex lex' : Lexicon} (hlex : lex.packs = lex'.packs) {today : Calendar.Date}
    {locale content : String} {trace : Trace} {inv : Invocation}
    (h : (r.resolveAmong lex today locale content is trace).1 = .resolved inv) (trace' : Trace) :
    (r'.resolveAmong lex' today locale content is trace').1 = .resolved inv := by
  unfold resolveAmong at h ⊢
  rw [Text.normalize_congr hlex, hoff] at h
  rw [hon]
  exact walk_withFuzzy h _

theorem hear_congr {r r' : Resolver} (hwake : r.settings.wake = r'.settings.wake)
    (hactive : r.activeLocale = r'.activeLocale) : r.hear = r'.hear := by
  unfold hear detectWake wakeEntries
  rw [hwake, hactive]

theorem localeOf_congr {r r' : Resolver} (hdetector : r.detector = r'.detector)
    (hfallbacks : r.settings.fallbackLocales = r'.settings.fallbackLocales)
    (hactive : r.activeLocale = r'.activeLocale) : r.localeOf = r'.localeOf := by
  unfold localeOf
  rw [hdetector, hfallbacks, hactive]

theorem settings_of_create {settings : Settings} {lex : Lexicon} {r : Resolver}
    (h : create settings lex = .ok r) : r.settings = settings := by
  unfold create at h
  split at h
  · cases h
  · cases h
    rfl

end Resolver

namespace Session

open Resolver

variable {s s' : Session}

/-- A session as it is after operations on a resolver that was created with settings and a detector. -/
structure MadeFrom (settings : Settings) (detector : Locale.Detector) (s : Session) : Prop where
  sound : s.Sound
  settings : s.resolver.settings = settings
  detector : s.resolver.detector = detector

theorem madeFrom_after {settings : Settings} {lex : Lexicon} {r : Resolver}
    (h : Resolver.create settings lex = .ok r) (detector : Locale.Detector) (ops : List Operation) :
    MadeFrom settings detector ((start r detector).after intentsFor ops) := by
  have hkept := kept_after (start r detector) intentsFor ops
  exact ⟨(Sound.of_create h detector).after ops,
    hkept.settings.trans (show r.settings = _ from settings_of_create h), hkept.detector⟩

/-- With the same specs, words and active locale, sessions whose settings differ in how they rank
rank the same intents for what the same utterance says. -/
theorem MadeFrom.exists_resolveAmong_of_resolved {settings settings' : Settings}
    {detector : Locale.Detector} (h : MadeFrom settings detector s)
    (h' : MadeFrom settings' detector s') (hwake : settings.wake = settings'.wake)
    (hfallbacks : settings.fallbackLocales = settings'.fallbackLocales)
    (hspecs : s.resolver.specs = s'.resolver.specs)
    (hactive : s.resolver.activeLocale = s'.resolver.activeLocale)
    {today : Calendar.Date} {utterance : String} {explicit : Option String} {age age' : Nat}
    (hlex : (s.snapshot age).packs = (s'.snapshot age').packs) {inv : Invocation} {t : Trace}
    (hres : (s.step intentsFor (.resolve today utterance explicit age)).1 =
      .outcome (.ok (.resolved inv, t))) :
    ∃ locale content is trace,
      (s.resolver.resolveAmong (s.snapshot age) today locale content is trace).1 = .resolved inv ∧
      ∀ inv', (s'.resolver.resolveAmong (s'.snapshot age') today locale content is trace).1 =
          .resolved inv' →
        ∃ t', (s'.step intentsFor (.resolve today utterance explicit age')).1 =
          .outcome (.ok (.resolved inv', t')) := by
  obtain ⟨content, trace, is, hheard, his, hwalk⟩ := h.sound.exists_walk_of_resolved hres
  have hhear : s.resolver.hear = s'.resolver.hear :=
    hear_congr (by rw [h.settings, h'.settings, hwake]) hactive
  have hlocale : s.resolver.localeOf = s'.resolver.localeOf :=
    localeOf_congr (h.detector.trans h'.detector.symm) (by rw [h.settings, h'.settings, hfallbacks])
      hactive
  rw [hhear] at hheard
  obtain ⟨is', his', hstep'⟩ := h'.sound.answer_heard today age' hheard
  have hcompile : (Wanted.compile · (s.resolver.localeOf explicit content) (s.snapshot age)) =
      (Wanted.compile · (s.resolver.localeOf explicit content) (s'.snapshot age')) :=
    funext fun w => Intent.compile_congr hlex w.spec w.phrase w.kind _
  rw [hcompile, hspecs, hlocale, his'] at his
  obtain rfl := Except.ok.inj his
  rw [hlocale] at hwalk
  refine ⟨_, content, is', trace, congrArg Prod.fst hwalk, fun inv' hwalk' => ?_⟩
  rw [← hwalk']
  exact ⟨_, hstep'⟩

/-- What is resolved without looking for likeness is resolved to the same action with it, by a resolver
with the same specs, words and active locale, and the same settings but for likeness. -/
theorem resolved_withFuzzy_after {settings : Settings} {lex lex' : Lexicon} {r r' : Resolver}
    (h : Resolver.create (settings.withFuzzy false) lex = .ok r)
    (h' : Resolver.create (settings.withFuzzy true) lex' = .ok r') (detector : Locale.Detector)
    (ops ops' : List Operation) :
    let s := (start r detector).after intentsFor ops
    let s' := (start r' detector).after intentsFor ops'
    s.resolver.specs = s'.resolver.specs → s.resolver.activeLocale = s'.resolver.activeLocale →
      ∀ age age', (s.snapshot age).packs = (s'.snapshot age').packs →
        ∀ today utterance explicit inv t,
          (s.step intentsFor (.resolve today utterance explicit age)).1 =
            .outcome (.ok (.resolved inv, t)) →
          ∃ t', (s'.step intentsFor (.resolve today utterance explicit age')).1 =
            .outcome (.ok (.resolved inv, t')) := by
  intro s s' hspecs hactive age age' hlex today utterance explicit inv t hres
  have hoff : MadeFrom _ _ s := madeFrom_after h detector ops
  have hon : MadeFrom _ _ s' := madeFrom_after h' detector ops'
  obtain ⟨locale, content, is, trace, hwalk, hresolved⟩ :=
    hoff.exists_resolveAmong_of_resolved hon rfl rfl hspecs hactive hlex hres
  exact hresolved inv (resolveAmong_withFuzzy hoff.settings hon.settings hlex hwalk trace)

/-- A phrase like the one that is said comes first among the specs. -/
theorem resolved_withFuzzy_after_registerAll :
    let ops : List Operation :=
      [.registerAll [.saying "cancelAll" "cancelar", .saying "cancel" "cancela"]]
    let r : Resolver := { Resolver.plain with settings := ({} : Settings).withFuzzy false }
    let s := (start r .standard).after intentsFor ops
    let s' := (start .plain .standard).after intentsFor ops
    let said := Operation.resolve ⟨2024, 5, 1, by decide⟩ "cancela" none 0
    Resolver.create (({} : Settings).withFuzzy false) .empty = .ok r ∧
      Resolver.create (({} : Settings).withFuzzy true) .empty = .ok .plain ∧
      s.resolver.specs = s'.resolver.specs ∧ s.resolver.activeLocale = s'.resolver.activeLocale ∧
      (s.snapshot 0).packs = (s'.snapshot 0).packs ∧
      ∃ inv t t', (s.step intentsFor said).1 = .outcome (.ok (.resolved inv, t)) ∧
        (s'.step intentsFor said).1 = .outcome (.ok (.resolved inv, t')) := by
  intro ops r s s' said
  have hoff : Resolver.create (({} : Settings).withFuzzy false) .empty = .ok r := rfl
  have hon : Resolver.create (({} : Settings).withFuzzy true) .empty = .ok .plain := rfl
  have hspecs : s.resolver.specs = s'.resolver.specs := by with_unfolding_all rfl
  have hactive : s.resolver.activeLocale = s'.resolver.activeLocale := by with_unfolding_all rfl
  have hlex : (s.snapshot 0).packs = (s'.snapshot 0).packs := by with_unfolding_all rfl
  obtain ⟨inv, t, hres⟩ : ∃ inv t, (s.step intentsFor said).1 = .outcome (.ok (.resolved inv, t)) :=
    Answer.exists_resolved (by decide +kernel)
  obtain ⟨t', hres'⟩ := resolved_withFuzzy_after hoff hon .standard ops ops hspecs hactive 0 0 hlex
    _ _ _ inv t hres
  exact ⟨hoff, hon, hspecs, hactive, hlex, inv, t, t', hres, hres'⟩

end Session

end Parlance
