import Parlance.Proofs.Resolver.Session

/-!
The cache of intents is not to be seen. Main statement: `answers_create_afresh`, that a resolver in
use answers as one that compiles all phrases anew for each utterance.
-/

namespace Parlance

namespace Resolver

/-- The intents for a locale, all compiled anew; the cache is left alone. -/
def afresh : Supply := fun r locale lex =>
  ((wanted r.specs locale).mapM (Wanted.compile · locale lex), r.cache)

@[simp] theorem withCache_withCache (r : Resolver) (c c' : IntentCache) :
    (r.withCache c).withCache c' = r.withCache c' := rfl

@[simp] theorem localeOf_withCache (r : Resolver) (c : IntentCache) (explicit : Option String)
    (content : String) : (r.withCache c).localeOf explicit content = r.localeOf explicit content := rfl

@[simp] theorem hear_withCache (r : Resolver) (c : IntentCache) (utterance : String)
    (explicit : Option String) : (r.withCache c).hear utterance explicit = r.hear utterance explicit :=
  rfl

@[simp] theorem resolveAmong_withCache (r : Resolver) (c : IntentCache) (lex : Lexicon)
    (today : Calendar.Date) (locale content : String) (is : List Intent) (trace : Trace) :
    (r.withCache c).resolveAmong lex today locale content is trace =
      r.resolveAmong lex today locale content is trace := rfl

theorem register_withCache (r : Resolver) (c : IntentCache) (spec : Spec) :
    (r.withCache c).register spec = (r.register spec).map (·.withCache c.clear) := by
  unfold register
  change (Intent.compileAll spec r.lexicon >>= _) = _
  cases Intent.compileAll spec r.lexicon with
  | error e => rfl
  | ok is =>
    change (if _ then _ else _) = Except.map _ (if _ then _ else _)
    split
    · rw [if_pos ‹_›]
      rfl
    · rw [if_neg ‹_›]
      rfl

theorem registerAll_withCache (r : Resolver) (c : IntentCache) (specs : List Spec) :
    ∃ c', (r.withCache c).registerAll specs =
      ((r.registerAll specs).1.withCache c', (r.registerAll specs).2) := by
  induction specs generalizing r c with
  | nil => exact ⟨c, rfl⟩
  | cons spec specs ih =>
    rw [registerAll, registerAll, register_withCache]
    cases r.register spec with
    | error e => exact ⟨c, rfl⟩
    | ok r' => exact ih r' c.clear

theorem setActiveLocale_withCache (r : Resolver) (c : IntentCache) (locale : String) :
    (r.withCache c).setActiveLocale locale = (r.setActiveLocale locale).withCache c := by
  unfold setActiveLocale
  dsimp only
  split <;> rfl

theorem follow_withCache (r : Resolver) (c : IntentCache) (locale : String) (res : Resolution) :
    (r.withCache c).follow locale res = (r.follow locale res).withCache c := by
  cases res with
  | resolved i => exact setActiveLocale_withCache r c locale
  | ignored reason => rfl
  | rejected reason text locale => rfl

theorem resolveAmong_recast {r : Resolver} (hnames : (r.specs.map Spec.name).Nodup) {lex : Lexicon}
    {locale : String} {is : List Intent}
    (h : (wanted r.specs locale).mapM (Wanted.compile · locale lex) = .ok is)
    (today : Calendar.Date) (content : String) (trace : Trace) :
    r.resolveAmong lex today locale content (is.map (recast r.specs)) trace =
      r.resolveAmong lex today locale content is trace :=
  walk_recast hnames h _

end Resolver

namespace Session

open Resolver

variable {s : Session}

theorem Sound.resolveContent_afresh (h : s.Sound) {lex : Lexicon} (hl : lex ∈ s.snapshots)
    (c : IntentCache) (today : Calendar.Date) (explicit : Option String) (content : String)
    (trace : Trace) :
    ∃ c', (s.resolver.withCache c).resolveContent afresh lex today explicit content trace =
      ((s.resolver.resolveContent intentsFor lex today explicit content trace).1,
        (s.resolver.resolveContent intentsFor lex today explicit content trace).2.withCache c') := by
  have hf := (h.fetched hl (s.resolver.localeOf explicit content)).1
  cases hfresh : (wanted s.resolver.specs (s.resolver.localeOf explicit content)).mapM
      (Wanted.compile · (s.resolver.localeOf explicit content) lex) with
  | error e =>
    rw [hfresh] at hf
    have hf' : (afresh (s.resolver.withCache c)
        ((s.resolver.withCache c).localeOf explicit content) lex).1 = .error e := hfresh
    rw [resolveContent_of_error hf, resolveContent_of_error hf', withCache_withCache]
    exact ⟨_, rfl⟩
  | ok is =>
    rw [hfresh] at hf
    have hf' : (afresh (s.resolver.withCache c)
        ((s.resolver.withCache c).localeOf explicit content) lex).1 = .ok is := hfresh
    rw [resolveContent_of_ok hf, resolveContent_of_ok hf']
    simp only [localeOf_withCache, resolveAmong_withCache, withCache_withCache,
      follow_withCache, resolveAmong_recast h.names hfresh]
    exact ⟨_, rfl⟩

theorem Sound.resolveUnder_afresh (h : s.Sound) {lex : Lexicon} (hl : lex ∈ s.snapshots)
    (c : IntentCache) (today : Calendar.Date) (utterance : String) (explicit : Option String) :
    ∃ c', (s.resolver.withCache c).resolveUnder afresh lex today utterance explicit =
      ((s.resolver.resolveUnder intentsFor lex today utterance explicit).1,
        (s.resolver.resolveUnder intentsFor lex today utterance explicit).2.withCache c') := by
  unfold Resolver.resolveUnder
  rw [hear_withCache]
  rcases s.resolver.hear utterance explicit with ⟨reason, trace⟩ | ⟨content, trace⟩
  · exact ⟨c, rfl⟩
  · exact h.resolveContent_afresh hl c today explicit content trace

def withCache (s : Session) (c : IntentCache) : Session :=
  { s with resolver := s.resolver.withCache c }

@[simp] theorem resolver_withCache (s : Session) (c : IntentCache) :
    (s.withCache c).resolver = s.resolver.withCache c := rfl

@[simp] theorem past_withCache (s : Session) (c : IntentCache) : (s.withCache c).past = s.past := rfl

@[simp] theorem mk_withCache (r : Resolver) (past : List Lexicon) (c : IntentCache) :
    withCache ⟨r, past⟩ c = ⟨r.withCache c, past⟩ := rfl

@[simp] theorem snapshot_withCache (s : Session) (c : IntentCache) (age : Nat) :
    (s.withCache c).snapshot age = s.snapshot age := rfl

theorem edits_withCache (s : Session) (c : IntentCache) (es : List Lexicon.Edit) :
    es.foldl Session.edit (s.withCache c) = (es.foldl Session.edit s).withCache c := by
  induction es generalizing s with
  | nil => rfl
  | cons e es ih => exact ih (s.edit e)

/-- One operation is answered as with intents compiled anew, and leaves the same but for the
cache. -/
theorem Sound.step_afresh (h : s.Sound) (c : IntentCache) (op : Operation) :
    ∃ c', (s.withCache c).step afresh op =
      ((s.step intentsFor op).1, (s.step intentsFor op).2.withCache c') := by
  cases op with
  | register spec =>
    simp only [Session.step, resolver_withCache, register_withCache]
    cases s.resolver.register spec with
    | error e => exact ⟨c, rfl⟩
    | ok r => exact ⟨c.clear, rfl⟩
  | registerAll specs =>
    obtain ⟨c', hc⟩ := registerAll_withCache s.resolver c specs
    refine ⟨c', ?_⟩
    simp only [Session.step, resolver_withCache, past_withCache, mk_withCache, hc]
  | loadCatalog catalog =>
    obtain ⟨c', hc⟩ := registerAll_withCache (catalog.edits.foldl Session.edit s).resolver c
      catalog.specs
    refine ⟨c', ?_⟩
    simp only [Session.step, edits_withCache, resolver_withCache, past_withCache, mk_withCache, hc]
  | edit e => exact ⟨c, rfl⟩
  | setActiveLocale locale =>
    refine ⟨c, ?_⟩
    simp only [Session.step, resolver_withCache, past_withCache, mk_withCache,
      setActiveLocale_withCache]
  | observe => exact ⟨c, rfl⟩
  | resolve today utterance explicit age =>
    obtain ⟨c', hc⟩ := h.resolveUnder_afresh (s.snapshot_mem age) c today utterance explicit
    refine ⟨c', ?_⟩
    simp only [Session.step, resolver_withCache, snapshot_withCache, past_withCache, mk_withCache,
      hc]

theorem Sound.answers_afresh (h : s.Sound) (c : IntentCache) (ops : List Operation) :
    (s.withCache c).answers afresh ops = s.answers intentsFor ops := by
  induction ops generalizing s c with
  | nil => rfl
  | cons op ops ih =>
    obtain ⟨c', hc⟩ := h.step_afresh c op
    rw [answers, answers, hc, ih (h.step op)]

/-- A resolver answers any operations as one that compiles all phrases anew for each utterance. -/
theorem answers_create_afresh {settings : Settings} {lex : Lexicon} {r : Resolver}
    (h : Resolver.create settings lex = .ok r) (detector : Locale.Detector) (ops : List Operation) :
    (start r detector).answers intentsFor ops = (start r detector).answers afresh ops :=
  ((Sound.of_create h detector).answers_afresh r.cache ops).symm

/-- The default resolver with a phrase listed twice, before and after a change of the lexicon and
under its state before that change. -/
theorem answers_create_afresh_listedTwice :
    let ops : List Operation := [.register .listedTwice,
      .resolve ⟨2024, 5, 1, by decide⟩ "abre" none 0, .edit (.register "es" "abre" "abrir"),
      .resolve ⟨2024, 5, 1, by decide⟩ "Abre." none 0, .resolve ⟨2024, 5, 1, by decide⟩ "abre" none 1]
    Resolver.create {} .empty = .ok .plain ∧
      (start .plain .standard).answers intentsFor ops = (start .plain .standard).answers afresh ops :=
  ⟨rfl, answers_create_afresh (h := (rfl : Resolver.create {} .empty = .ok .plain)) .standard _⟩

end Session

end Parlance
