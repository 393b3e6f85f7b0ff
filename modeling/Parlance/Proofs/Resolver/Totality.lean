import Parlance.Proofs.Locale.Choice
import Parlance.Proofs.Resolver.Priority
import Parlance.Proofs.Resolver.Transparency
import Parlance.Proofs.Template.Source

/-!
A spec that is registered cannot fail later. Main statement: `answers_ok_after`, that in every run the
names of the specs are distinct, the active locale is a tag, and every utterance is answered. What
compiles does so for any locale under any lexicon, as do the patterns written out as text.
-/

namespace Parlance

/-- A spec of one phrase. -/
def Spec.saying (name phrase : String) : Spec where
  name
  action := .typed name none
  phrases := .ofList [("es", { canonical := [phrase] })]

/-- Every phrase of every pack is a template, and all texts put together from it are patterns, for any
locale under any lexicon. -/
def Spec.Reads (spec : Spec) : Prop :=
  ∀ e ∈ spec.phrases.entries, ∀ p ∈ e.2.phrases, ∃ us, Template.parse p.1 = .ok us ∧
    ∀ lex locale, ∀ text ∈ Template.sources spec lex locale us, ∃ q, Pattern.parse {} text = .ok q

theorem Spec.Compiles.reads {spec : Spec} (h : spec.Compiles) : spec.Reads := by
  intro e he p hp
  obtain ⟨i, hi⟩ := h e he p hp p.2 e.1 .empty
  obtain ⟨us, hparse, -⟩ := Template.exists_parse_of_mem_sources hi
  refine ⟨us, hparse, fun lex locale => ?_⟩
  obtain ⟨j, hj⟩ := h e he p hp p.2 locale lex
  obtain ⟨us', hparse', hread⟩ := Template.exists_parse_of_mem_sources hj
  obtain rfl : us = us' := Except.ok.inj (hparse.symm.trans hparse')
  exact hread

/-- The action of an utterance that is resolved. -/
def Answer.invocation? : Answer → Option Invocation
  | .outcome (.ok (.resolved inv, _)) => some inv
  | _ => none

theorem Answer.exists_resolved {a : Answer} (h : a.invocation?.isSome) :
    ∃ inv t, a = .outcome (.ok (.resolved inv, t)) := by
  obtain ⟨inv, hinv⟩ := Option.isSome_iff_exists.1 h
  unfold invocation? at hinv
  split at hinv
  · exact ⟨_, _, rfl⟩
  · cases hinv

namespace Resolver

open Parlance.Locale

variable {r : Resolver}

/-- What every operation keeps of a resolver: its settings, its detector, and that its active locale is
a tag. -/
structure Kept (r r' : Resolver) : Prop where
  settings : r'.settings = r.settings
  detector : r'.detector = r.detector
  isTag : IsTag r.activeLocale → IsTag r'.activeLocale

theorem Kept.refl (r : Resolver) : Kept r r :=
  ⟨rfl, rfl, id⟩

theorem Kept.trans {r' r'' : Resolver} (h : Kept r r') (h' : Kept r' r'') : Kept r r'' :=
  ⟨h'.settings.trans h.settings, h'.detector.trans h.detector, fun htag => h'.isTag (h.isTag htag)⟩

/-- A blank tag changes nothing, and any other is trimmed before it is made the active locale. -/
theorem kept_setActiveLocale (r : Resolver) (locale : String) : Kept r (r.setActiveLocale locale) := by
  unfold setActiveLocale
  dsimp only
  split
  · exact .refl r
  · rename_i hne
    exact ⟨rfl, rfl, fun _ => isTag_trim (by simpa using hne)⟩

theorem setActiveLocale_of_isTag (r : Resolver) {locale : String} (h : IsTag locale) :
    r.setActiveLocale locale = { r with activeLocale := locale } := by
  have hne : ¬locale.isEmpty := by
    intro hempty
    have hblank := h.notBlank
    rw [String.isEmpty_iff.1 hempty] at hblank
    cases hblank
  unfold setActiveLocale
  dsimp only
  rw [h.trimmed, if_neg hne]

/-- What an utterance is resolved in is a tag: one of the candidates, or else the active locale. -/
theorem isTag_localeOf (h : IsTag r.activeLocale) (explicit : Option String) (content : String) :
    IsTag (r.localeOf explicit content) := by
  unfold localeOf
  cases hd : r.detector.detect content
      (Locale.candidates explicit r.activeLocale r.settings.fallbackLocales) with
  | none => exact h
  | some tag => exact isTag_of_mem_candidates (mem_of_detect hd)

theorem registerAll_fst (r : Resolver) (specs : List Spec) :
    ∃ specs' cache, (r.registerAll specs).1 = { r with specs := specs', cache } := by
  induction specs generalizing r with
  | nil => exact ⟨r.specs, r.cache, rfl⟩
  | cons spec specs ih =>
    rw [registerAll]
    cases hr : r.register spec with
    | error e => exact ⟨r.specs, r.cache, rfl⟩
    | ok r' =>
      obtain ⟨-, -, rfl⟩ := register_eq_ok hr
      exact ih _

theorem kept_follow (r : Resolver) (locale : String) (res : Resolution) :
    Kept r (r.follow locale res) := by
  cases res with
  | resolved i => exact kept_setActiveLocale r locale
  | ignored reason => exact .refl r
  | rejected reason text locale => exact .refl r

theorem kept_resolveUnder (r : Resolver) (supply : Supply) (lex : Lexicon) (today : Calendar.Date)
    (utterance : String) (explicit : Option String) :
    Kept r (r.resolveUnder supply lex today utterance explicit).2 := by
  have hcache (c : IntentCache) : Kept r (r.withCache c) := ⟨rfl, rfl, id⟩
  unfold resolveUnder
  rcases r.hear utterance explicit with ⟨reason, trace⟩ | ⟨content, trace⟩
  · exact .refl r
  · dsimp only
    cases hs : (supply r (r.localeOf explicit content) lex).1 with
    | error e =>
      rw [resolveContent_of_error hs]
      exact hcache _
    | ok is =>
      rw [resolveContent_of_ok hs]
      exact (hcache _).trans (kept_follow _ _ _)

/-- What is passed over leaves a resolver as it is. -/
theorem resolveUnder_of_passedOver {r : Resolver} {supply : Supply} {lex : Lexicon}
    {today : Calendar.Date} {utterance : String} {explicit : Option String}
    {reason : IgnoredReason} {trace : Trace}
    (h : r.hear utterance explicit = .error (reason, trace)) :
    r.resolveUnder supply lex today utterance explicit = (.ok (.ignored reason, trace), r) := by
  unfold resolveUnder
  rw [h]

end Resolver

namespace Session

open Resolver Parlance.Locale

variable {s : Session}

theorem isTag_start {settings : Settings} {lex : Lexicon} {r : Resolver}
    (h : Resolver.create settings lex = .ok r) (detector : Locale.Detector) :
    IsTag (start r detector).resolver.activeLocale := by
  unfold Resolver.create at h
  split at h
  · cases h
  · rename_i hfault
    cases h
    refine isTag_trim fun hempty => ?_
    unfold Settings.fault? at hfault
    rw [if_pos (Text.isBlank_iff.2 hempty)] at hfault
    cases hfault

theorem resolver_edits (s : Session) (es : List Lexicon.Edit) :
    ∃ lexicon, (es.foldl Session.edit s).resolver = { s.resolver with lexicon } := by
  induction es generalizing s with
  | nil => exact ⟨s.resolver.lexicon, rfl⟩
  | cons e es ih => exact ih (s.edit e)

theorem kept_step (s : Session) (supply : Supply) (op : Operation) :
    Kept s.resolver (s.step supply op).2.resolver := by
  cases op with
  | register spec =>
    rw [Session.step]
    cases hr : s.resolver.register spec with
    | error e => exact .refl s.resolver
    | ok r =>
      obtain ⟨-, -, rfl⟩ := register_eq_ok hr
      exact ⟨rfl, rfl, id⟩
  | registerAll specs =>
    obtain ⟨specs', cache, he⟩ := registerAll_fst s.resolver specs
    rw [Session.step, he]
    exact ⟨rfl, rfl, id⟩
  | loadCatalog c =>
    obtain ⟨lexicon, hedits⟩ := resolver_edits s c.edits
    obtain ⟨specs', cache, he⟩ := registerAll_fst (c.edits.foldl edit s).resolver c.specs
    rw [Session.step, he, hedits]
    exact ⟨rfl, rfl, id⟩
  | edit e => exact ⟨rfl, rfl, id⟩
  | setActiveLocale locale => exact kept_setActiveLocale s.resolver locale
  | observe => exact .refl s.resolver
  | resolve today utterance explicit age =>
    simp only [Session.step]
    exact kept_resolveUnder s.resolver supply (s.snapshot age) today utterance explicit

theorem kept_after (s : Session) (supply : Supply) (ops : List Operation) :
    Kept s.resolver (s.after supply ops).resolver := by
  induction ops generalizing s with
  | nil => exact .refl s.resolver
  | cons op ops ih => exact (kept_step s supply op).trans (ih (s.step supply op).2)

theorem isTag_after (h : IsTag s.resolver.activeLocale) (supply : Supply) (ops : List Operation) :
    IsTag (s.after supply ops).resolver.activeLocale :=
  (kept_after s supply ops).isTag h

/-- What is heard is resolved among the intents of all phrases of its locale, compiled anew. -/
theorem Sound.answer_heard (h : s.Sound) (today : Calendar.Date) {utterance content : String}
    {explicit : Option String} {trace : Trace} (age : Nat)
    (hheard : s.resolver.hear utterance explicit = .ok (content, trace)) :
    let locale := s.resolver.localeOf explicit content
    ∃ is, (wanted s.resolver.specs locale).mapM (Wanted.compile · locale (s.snapshot age)) = .ok is ∧
      (s.step intentsFor (.resolve today utterance explicit age)).1 =
        .outcome (.ok (s.resolver.resolveAmong (s.snapshot age) today locale content is trace)) := by
  intro locale
  obtain ⟨is, his⟩ := exists_ok_of_mapM fun w (hw : w ∈ wanted s.resolver.specs locale) =>
    exists_ok_of_mem_wanted h.compiles hw (s.snapshot age)
  have hfetched := (h.fetched (s.snapshot_mem age) locale).1
  rw [his] at hfetched
  refine ⟨is, his, ?_⟩
  simp only [Session.step, resolveUnder_of_heard hheard]
  rw [resolveContent_of_ok hfetched]
  exact congrArg (fun answer => Answer.outcome (.ok answer))
    (resolveAmong_recast h.names his today content trace)

theorem Sound.exists_resolution (h : s.Sound) (today : Calendar.Date) (utterance : String)
    (explicit : Option String) (age : Nat) :
    ∃ res t, (s.step intentsFor (.resolve today utterance explicit age)).1 =
      .outcome (.ok (res, t)) := by
  cases hheard : s.resolver.hear utterance explicit with
  | error e =>
    refine ⟨.ignored e.1, e.2, ?_⟩
    rw [Session.step, resolveUnder_of_passedOver hheard]
  | ok p =>
    obtain ⟨is, -, ht⟩ := h.answer_heard today age hheard
    exact ⟨_, _, ht⟩

/-- An utterance that is resolved was heard, and its action is that of a walk over the ranking of the
intents of all phrases of its locale. -/
theorem Sound.exists_walk_of_resolved (h : s.Sound) {today : Calendar.Date} {utterance : String}
    {explicit : Option String} {age : Nat} {inv : Invocation} {t : Trace}
    (hres : (s.step intentsFor (.resolve today utterance explicit age)).1 =
      .outcome (.ok (.resolved inv, t))) :
    ∃ content trace is,
      s.resolver.hear utterance explicit = .ok (content, trace) ∧
      (wanted s.resolver.specs (s.resolver.localeOf explicit content)).mapM
        (Wanted.compile · (s.resolver.localeOf explicit content) (s.snapshot age)) = .ok is ∧
      s.resolver.resolveAmong (s.snapshot age) today (s.resolver.localeOf explicit content) content is
        trace = (.resolved inv, t) := by
  cases hheard : s.resolver.hear utterance explicit with
  | error e =>
    rw [Session.step, resolveUnder_of_passedOver hheard] at hres
    cases hres
  | ok p =>
    obtain ⟨content, trace⟩ := p
    obtain ⟨is, his, ht⟩ := h.answer_heard today age hheard
    rw [ht] at hres
    exact ⟨content, trace, is, rfl, his, Except.ok.inj (Answer.outcome.inj hres)⟩

/-- In every run the names of the specs are distinct, the active locale is a tag, and every utterance is
answered: a spec whose phrases compile under some lexicon compiles for any locale under any other, and
no pattern put together for it fails to be read. -/
theorem answers_ok_after {settings : Settings} {lex : Lexicon} {r : Resolver}
    (h : Resolver.create settings lex = .ok r) (detector : Locale.Detector) (ops : List Operation) :
    let s := (start r detector).after intentsFor ops
    (s.resolver.specs.map Spec.name).Nodup ∧ IsTag s.resolver.activeLocale ∧
      (∀ spec ∈ s.resolver.specs, spec.Compiles ∧ spec.Reads) ∧
      (∀ today utterance explicit age, ∃ res t,
        (s.step intentsFor (.resolve today utterance explicit age)).1 = .outcome (.ok (res, t))) ∧
      ∀ spec lex' is, Intent.compileAll spec lex' = .ok is → spec.Compiles ∧ spec.Reads := by
  intro s
  have hsound : s.Sound := (Sound.of_create h detector).after ops
  have hactive : IsTag s.resolver.activeLocale := isTag_after (isTag_start h detector) _ ops
  have hboth {spec : Spec} (hspec : spec.Compiles) : spec.Compiles ∧ spec.Reads :=
    ⟨hspec, hspec.reads⟩
  exact ⟨hsound.names, hactive, fun spec hspec => hboth (hsound.compiles spec hspec),
    hsound.exists_resolution, fun spec lex' is h => hboth (.of_compileAll h)⟩

/-- The default resolver with one spec, before a change of the lexicon that concerns its phrase. -/
theorem answers_ok_after_saying :
    let open' := Spec.saying "open" "abre"
    let s := (start .plain .standard).after intentsFor
      [.register open', .edit (.register "es" "abre" "abrir la puerta")]
    Resolver.create {} .empty = .ok .plain ∧
      (s.resolver.specs.map Spec.name).Nodup ∧ IsTag s.resolver.activeLocale ∧
      (∀ today utterance explicit age, ∃ res t,
        (s.step intentsFor (.resolve today utterance explicit age)).1 = .outcome (.ok (res, t))) ∧
      ∃ is, Intent.compileAll open' .empty = .ok is ∧ open'.Compiles ∧ open'.Reads := by
  intro open' s
  have hcreate : Resolver.create {} .empty = .ok .plain := rfl
  obtain ⟨hnames, hactive, -, hresolution, hcompiles⟩ := answers_ok_after hcreate .standard
    [.register open', .edit (.register "es" "abre" "abrir la puerta")]
  obtain ⟨is, his⟩ : ∃ is, Intent.compileAll open' .empty = .ok is := ⟨_, by with_unfolding_all rfl⟩
  exact ⟨hcreate, hnames, hactive, hresolution, is, his, hcompiles open' .empty is his⟩

end Session

end Parlance
