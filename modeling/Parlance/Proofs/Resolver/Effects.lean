import Parlance.Proofs.Resolver.Totality
import Parlance.Proofs.Resolver.Transparency

/-!
What a call leaves behind. Main statement: `indistinct_after`, that a call which does not succeed is
not to be seen afterwards, and an utterance that is resolved only by the active locale.
-/

namespace Parlance

theorem Answer.exists_rejected {a : Answer} (h : a matches .outcome (.ok (.rejected _ _ _, _))) :
    ∃ reason text locale t, a = .outcome (.ok (.rejected reason text locale, t)) := by
  split at h
  · exact ⟨_, _, _, _, rfl⟩
  · cases h

namespace Resolver

open Parlance.Locale

variable {r : Resolver} {supply : Supply} {lex : Lexicon} {today : Calendar.Date}
  {utterance : String} {explicit : Option String} {trace : Trace}

/-- An action is told in the locale of what was said. -/
theorem locale_of_resolveAmong {locale content : String} {is : List Intent} {inv : Invocation}
    (h : (r.resolveAmong lex today locale content is trace).1 = .resolved inv) :
    inv.provenance.locale = locale := by
  obtain ⟨c, -, -, -, rfl, -⟩ := exists_candidate_of_walk h
  rw [Invocation.provenance_of]
  rfl

/-- An utterance that is resolved changes the cache and makes its locale the active one. -/
theorem resolveUnder_snd_of_resolved (hactive : IsTag r.activeLocale) {inv : Invocation}
    {t : Trace}
    (h : (r.resolveUnder supply lex today utterance explicit).1 = .ok (.resolved inv, t)) :
    ∃ c, (r.resolveUnder supply lex today utterance explicit).2 =
      { r with activeLocale := inv.provenance.locale, cache := c } := by
  cases hheard : r.hear utterance explicit with
  | error e =>
    rw [resolveUnder_of_passedOver hheard] at h
    cases h
  | ok p =>
    obtain ⟨content, trace⟩ := p
    rw [resolveUnder_of_heard hheard] at h ⊢
    cases hs : (supply r (r.localeOf explicit content) lex).1 with
    | error e =>
      rw [resolveContent_of_error hs] at h
      cases h
    | ok is =>
      rw [resolveContent_of_ok hs] at h ⊢
      dsimp only at h ⊢
      have hres := congrArg Prod.fst (Except.ok.inj h)
      dsimp only at hres
      rw [hres, locale_of_resolveAmong hres, follow,
        setActiveLocale_of_isTag _ (isTag_localeOf hactive explicit content)]
      exact ⟨_, rfl⟩

/-- An utterance that is not resolved changes the cache at most. -/
theorem resolveUnder_snd_of_not_resolved
    (h : ∀ inv t, (r.resolveUnder supply lex today utterance explicit).1 ≠ .ok (.resolved inv, t)) :
    ∃ c, (r.resolveUnder supply lex today utterance explicit).2 = r.withCache c := by
  cases hheard : r.hear utterance explicit with
  | error e =>
    rw [resolveUnder_of_passedOver hheard]
    exact ⟨r.cache, rfl⟩
  | ok p =>
    obtain ⟨content, trace⟩ := p
    rw [resolveUnder_of_heard hheard] at h ⊢
    cases hs : (supply r (r.localeOf explicit content) lex).1 with
    | error e =>
      rw [resolveContent_of_error hs]
      exact ⟨_, rfl⟩
    | ok is =>
      rw [resolveContent_of_ok hs] at h ⊢
      dsimp only at h ⊢
      refine ⟨(supply r (r.localeOf explicit content) lex).2, ?_⟩
      generalize r.resolveAmong lex today (r.localeOf explicit content) content is trace = answer at h ⊢
      obtain ⟨res, t⟩ := answer
      cases res with
      | resolved inv => exact absurd rfl (h inv t)
      | ignored reason => rfl
      | rejected reason text locale => rfl

end Resolver

namespace Session

open Resolver

/-- Sessions that no operations tell apart. -/
def Indistinct (s s' : Session) : Prop :=
  ∀ ops, s.answers intentsFor ops = s'.answers intentsFor ops

def withActiveLocale (s : Session) (locale : String) : Session :=
  { s with resolver := { s.resolver with activeLocale := locale } }

variable {s s' : Session}

theorem Sound.withActiveLocale (h : s.Sound) (locale : String) : (s.withActiveLocale locale).Sound :=
  ⟨h.revisions, h.names, h.compiles, h.cached⟩

/-- What a cache holds does not tell sessions apart. -/
theorem Sound.indistinct (h : s.Sound) (h' : s'.Sound) {c : IntentCache}
    (hc : s.withCache c = s'.withCache c) : Indistinct s s' := by
  intro ops
  rw [← h.answers_afresh c, hc, h'.answers_afresh c]

theorem Sound.indistinct_of_not_resolved (h : s.Sound) (today : Calendar.Date) (utterance : String)
    (explicit : Option String) (age : Nat)
    (hres : ∀ inv t, (s.step intentsFor (.resolve today utterance explicit age)).1 ≠
      .outcome (.ok (.resolved inv, t))) :
    Indistinct (s.step intentsFor (.resolve today utterance explicit age)).2 s := by
  have hnot : ∀ inv t, (s.resolver.resolveUnder intentsFor (s.snapshot age) today utterance
      explicit).1 ≠ .ok (.resolved inv, t) :=
    fun inv t he => hres inv t (congrArg Answer.outcome he)
  obtain ⟨c, hc⟩ := resolveUnder_snd_of_not_resolved hnot
  refine Sound.indistinct (h.step _) h (c := s.resolver.cache) ?_
  rw [Session.step, hc]
  rfl

theorem Sound.indistinct_of_resolved (h : s.Sound) (hactive : Locale.IsTag s.resolver.activeLocale)
    {today : Calendar.Date} {utterance : String} {explicit : Option String} {age : Nat}
    {inv : Invocation} {t : Trace}
    (hres : (s.step intentsFor (.resolve today utterance explicit age)).1 =
      .outcome (.ok (.resolved inv, t))) :
    (s.step intentsFor (.resolve today utterance explicit age)).2.resolver.activeLocale =
        inv.provenance.locale ∧
      Indistinct (s.step intentsFor (.resolve today utterance explicit age)).2
        (s.withActiveLocale inv.provenance.locale) := by
  obtain ⟨c, hc⟩ := resolveUnder_snd_of_resolved hactive (Answer.outcome.inj hres)
  refine ⟨?_, Sound.indistinct (h.step _) (h.withActiveLocale _) (c := s.resolver.cache) ?_⟩
  · rw [Session.step, hc]
  · rw [Session.step, hc]
    rfl

/-- In every run, an utterance that is passed over or rejected, and a spec that is not registered, leave
a session that no operations tell from the one before; one that is resolved makes the locale it was
resolved in the active one, and leaves nothing else to be seen. -/
theorem indistinct_after {settings : Settings} {lex : Lexicon} {r : Resolver}
    (h : Resolver.create settings lex = .ok r) (detector : Locale.Detector) (ops : List Operation) :
    let s := (start r detector).after intentsFor ops
    (∀ today utterance explicit age res t,
      (s.step intentsFor (.resolve today utterance explicit age)).1 = .outcome (.ok (res, t)) →
      let s' := (s.step intentsFor (.resolve today utterance explicit age)).2
      match res with
      | .resolved inv => s'.resolver.activeLocale = inv.provenance.locale ∧
          Indistinct s' (s.withActiveLocale inv.provenance.locale)
      | .ignored _ => Indistinct s' s
      | .rejected _ _ _ => Indistinct s' s) ∧
    ∀ spec e, (s.step intentsFor (.register spec)).1 = .catalog (some e) →
      Indistinct (s.step intentsFor (.register spec)).2 s := by
  intro s
  have hsound : s.Sound := (Sound.of_create h detector).after ops
  have hactive : Locale.IsTag s.resolver.activeLocale := isTag_after (isTag_start h detector) _ ops
  constructor
  · intro today utterance explicit age res t hres
    cases res with
    | resolved inv => exact hsound.indistinct_of_resolved hactive hres
    | ignored reason =>
      apply hsound.indistinct_of_not_resolved
      intro inv t' he
      rw [hres] at he
      cases he
    | rejected reason text locale =>
      apply hsound.indistinct_of_not_resolved
      intro inv t' he
      rw [hres] at he
      cases he
  · intro spec e hspec
    rw [Session.step] at hspec ⊢
    cases hr : s.resolver.register spec with
    | error e' => exact fun ops => rfl
    | ok r' =>
      rw [hr] at hspec
      cases hspec

-- sealed, so that calls are told apart by what they are given and not by what they compute
seal Session.step in
/-- The default resolver with one spec: an utterance that asks for it, in a locale of its own, one that
does not, one that says nothing, and a second spec of the same name. -/
theorem indistinct_after_saying :
    let s := (start .plain .standard).after intentsFor [.register (.saying "open" "abre")]
    let say (utterance : String) :=
      s.step intentsFor (.resolve ⟨2024, 5, 1, by decide⟩ utterance (some "es") 0)
    Resolver.create {} .empty = .ok .plain ∧
      (∃ inv t, (say "abre").1 = .outcome (.ok (.resolved inv, t)) ∧
        (say "abre").2.resolver.activeLocale = inv.provenance.locale ∧
        Indistinct (say "abre").2 (s.withActiveLocale inv.provenance.locale)) ∧
      (∃ reason text locale t, (say "cierra").1 = .outcome (.ok (.rejected reason text locale, t)) ∧
        Indistinct (say "cierra").2 s) ∧
      (∃ t, (say " ").1 = .outcome (.ok (.ignored .emptyUtterance, t)) ∧ Indistinct (say " ").2 s) ∧
      ∃ e, (s.step intentsFor (.register (.saying "open" "cierra"))).1 = .catalog (some e) ∧
        Indistinct (s.step intentsFor (.register (.saying "open" "cierra"))).2 s := by
  intro s say
  have hcreate : Resolver.create {} .empty = .ok .plain := rfl
  obtain ⟨hsaid, hspec⟩ := indistinct_after hcreate .standard [.register (.saying "open" "abre")]
  obtain ⟨inv, t, hresolved⟩ : ∃ inv t, (say "abre").1 = .outcome (.ok (.resolved inv, t)) :=
    Answer.exists_resolved (by decide +kernel)
  obtain ⟨reason, text, locale, t', hrejected⟩ :
      ∃ reason text locale t, (say "cierra").1 = .outcome (.ok (.rejected reason text locale, t)) :=
    Answer.exists_rejected (by decide +kernel)
  have hignored : (say " ").1 = .outcome (.ok (.ignored .emptyUtterance, {})) := by
    with_unfolding_all rfl
  obtain ⟨e, hfailed⟩ : ∃ e, (s.step intentsFor (.register (.saying "open" "cierra"))).1 =
      .catalog (some e) := ⟨_, by with_unfolding_all rfl⟩
  refine ⟨hcreate, ⟨inv, t, hresolved, ?_⟩, ⟨reason, text, locale, t', hrejected, ?_⟩,
    ⟨{}, hignored, ?_⟩, ⟨e, hfailed, ?_⟩⟩
  · exact hsaid _ "abre" (some "es") 0 (.resolved inv) t hresolved
  · exact hsaid _ "cierra" (some "es") 0 (.rejected reason text locale) t' hrejected
  · exact hsaid _ " " (some "es") 0 (.ignored .emptyUtterance) {} hignored
  · exact hspec _ e hfailed

end Session

end Parlance
