import Parlance.Lexicon.Edit
import Parlance.Proofs.Resolver.Recast

/-!
Resolvers in use: any operations in any order, a resolution under the lexicon as it is or as it was
some changes before. Main statement: `Sound.after`, that what is true of the cache, the names and the
phrases of the specs when a resolver is made stays true.
-/

namespace Parlance

/-- The changes of the lexicon that a catalog brings along. -/
def Catalog.edits (c : Catalog) : List Lexicon.Edit :=
  c.lexicon.entries.map fun e => .registerAll e.1 e.2.entries

/-- A resolver in use, with the earlier states of its lexicon, the latest first. -/
structure Session where
  resolver : Resolver
  past : List Lexicon := []

inductive Operation where
  | register (spec : Spec)
  | registerAll (specs : List Spec)
  | loadCatalog (c : Catalog)
  | edit (e : Lexicon.Edit)
  | setActiveLocale (locale : String)
  /-- Looks at what a resolver shows of itself. -/
  | observe
  /-- Resolves an utterance under the lexicon as it was `age` changes before. -/
  | resolve (today : Calendar.Date) (utterance : String) (explicit : Option String) (age : Nat)

inductive Answer where
  | done
  | catalog (error : Option CatalogError)
  | view (specs : List Spec) (activeLocale : String) (revision : Nat)
  | outcome (o : Resolver.Outcome)

namespace Session

def snapshots (s : Session) : List Lexicon :=
  s.resolver.lexicon :: s.past

/-- The lexicon as it was some changes before, at most as it was at first. -/
def snapshot (s : Session) (age : Nat) : Lexicon :=
  s.snapshots.getD age (s.snapshots.getLast (List.cons_ne_nil _ _))

def edit (s : Session) (e : Lexicon.Edit) : Session :=
  ⟨s.resolver.updateLexicon (·.edit e), s.resolver.lexicon :: s.past⟩

/-- What an operation answers and what it leaves, when intents come from a given supply. -/
def step (supply : Resolver.Supply) (s : Session) : Operation → Answer × Session
  | .register spec =>
    match s.resolver.register spec with
    | .ok r => (.catalog none, { s with resolver := r })
    | .error e => (.catalog (some e), s)
  | .registerAll specs =>
    let p := s.resolver.registerAll specs
    (.catalog p.2, { s with resolver := p.1 })
  | .loadCatalog c =>
    let s := c.edits.foldl edit s
    let p := s.resolver.registerAll c.specs
    (.catalog p.2, { s with resolver := p.1 })
  | .edit e => (.done, s.edit e)
  | .setActiveLocale locale => (.done, { s with resolver := s.resolver.setActiveLocale locale })
  | .observe =>
    (.view s.resolver.specs s.resolver.activeLocale s.resolver.lexicon.revision, s)
  | .resolve today utterance explicit age =>
    let o := s.resolver.resolveUnder supply (s.snapshot age) today utterance explicit
    (.outcome o.1, { s with resolver := o.2 })

def answers (supply : Resolver.Supply) (s : Session) : List Operation → List Answer
  | [] => []
  | op :: ops => (s.step supply op).1 :: (s.step supply op).2.answers supply ops

def after (supply : Resolver.Supply) (s : Session) (ops : List Operation) : Session :=
  ops.foldl (fun s op => (s.step supply op).2) s

/-- Taking over a catalog in one operation is what the resolver does with it. -/
theorem step_loadCatalog (supply : Resolver.Supply) (s : Session) (c : Catalog) :
    (s.step supply (.loadCatalog c)).1 = .catalog (s.resolver.loadCatalog c).2 ∧
      (s.step supply (.loadCatalog c)).2.resolver = (s.resolver.loadCatalog c).1 := by
  have hedits : (c.edits.foldl edit s).resolver = s.resolver.updateLexicon
      (c.lexicon.entries.foldl (fun lex e => lex.registerAll e.1 e.2.entries) ·) := by
    unfold Catalog.edits
    induction c.lexicon.entries generalizing s with
    | nil => rfl
    | cons e es ih => exact ih (s.edit (.registerAll e.1 e.2.entries))
  unfold step Resolver.loadCatalog
  dsimp only
  rw [hedits]
  exact ⟨rfl, rfl⟩

theorem snapshot_mem (s : Session) (age : Nat) : s.snapshot age ∈ s.snapshots := by
  unfold snapshot
  rw [List.getD_eq_getElem?_getD]
  cases h : s.snapshots[age]? with
  | none => exact List.getLast_mem _
  | some lex => exact List.mem_of_getElem? h

end Session

/-- Every phrase of every pack compiles, for any locale under any lexicon. -/
def Spec.Compiles (spec : Spec) : Prop :=
  ∀ e ∈ spec.phrases.entries, ∀ p ∈ e.2.phrases, ∀ kind locale lex,
    ∃ i, Intent.compile spec p.1 kind locale lex = .ok i

theorem SameOutcome.exists_ok {ε α β : Type} {R : α → β → Prop} {x : Except ε α} {y : Except ε β}
    (h : SameOutcome R x y) {a : α} (hx : x = .ok a) : ∃ b, y = .ok b ∧ R a b := by
  subst hx
  cases y with
  | error e => exact h.elim
  | ok b => exact ⟨b, rfl, h⟩

theorem Spec.Compiles.of_compileAll {spec : Spec} {lex : Lexicon} {is : List Intent}
    (h : Intent.compileAll spec lex = .ok is) : spec.Compiles := by
  intro e he p hp kind locale lex'
  have hmem : (p, e.1) ∈ spec.phrases.entries.flatMap fun e => e.2.phrases.map fun p => (p, e.1) :=
    List.mem_flatMap.2 ⟨e, he, List.mem_map.2 ⟨p, hp, rfl⟩⟩
  have hall := forall₂_of_mapM h
  obtain ⟨n, hn, hget⟩ := List.getElem_of_mem hmem
  have hc := hall.get hn (hall.length_eq ▸ hn)
  rw [List.get_eq_getElem, hget] at hc
  obtain ⟨j, hj, -⟩ := (Intent.sameOutcome_compile spec p.1 p.2 kind e.1 locale lex lex').exists_ok hc
  exact ⟨j, hj⟩

theorem Spec.mem_entries_of_packFor? {spec : Spec} {locale : String} {e : String × PhrasePack}
    (h : spec.packFor? locale = some e) : e ∈ spec.phrases.entries := by
  have hat : ∀ tag, spec.packAt? tag = some e → e ∈ spec.phrases.entries := by
    intro tag htag
    obtain ⟨pack, hpack, rfl⟩ := Option.map_eq_some_iff.1 htag
    exact OrderedMap.get?_eq_some_iff.1 hpack
  unfold packFor? at h
  simp only [Option.or_eq_some_iff] at h
  rcases h with ((h | ⟨-, h⟩) | ⟨-, h⟩) | ⟨-, h⟩
  · exact hat _ h
  · exact hat _ h
  · exact List.mem_of_find?_eq_some h
  · obtain ⟨tag, -, h⟩ := Option.bind_eq_some_iff.1 h
    exact hat _ h

namespace Resolver

variable {specs : List Spec} {lex : Lexicon} {locale : String}

theorem exists_ok_of_mem_wanted (h : ∀ spec ∈ specs, spec.Compiles) {w : Wanted}
    (hw : w ∈ wanted specs locale) (lex : Lexicon) : ∃ i, w.compile locale lex = .ok i := by
  obtain ⟨spec, hspec, hw⟩ := List.mem_flatMap.1 hw
  split at hw
  · rename_i tag pack hpack
    obtain ⟨p, hp, rfl⟩ := List.mem_map.1 hw
    exact h spec hspec _ (Spec.mem_entries_of_packFor? hpack) p hp p.2 locale lex
  · cases hw

theorem exists_ok_of_mapM {ε α β : Type} {f : α → Except ε β} {as : List α}
    (h : ∀ a ∈ as, ∃ b, f a = .ok b) : ∃ bs, as.mapM f = .ok bs := by
  induction as with
  | nil => exact ⟨[], rfl⟩
  | cons a as ih =>
    obtain ⟨b, hb⟩ := h a List.mem_cons_self
    obtain ⟨bs, hbs⟩ := ih fun c hc => h c (List.mem_cons_of_mem _ hc)
    exact ⟨b :: bs, by rw [List.mapM_cons, hb, hbs]; rfl⟩

theorem register_eq_ok {r r' : Resolver} {spec : Spec} (h : r.register spec = .ok r') :
    spec.Compiles ∧ (∀ s ∈ r.specs, s.name ≠ spec.name) ∧
      r' = { r with specs := r.specs ++ [spec], cache := r.cache.clear } := by
  unfold register at h
  cases hc : Intent.compileAll spec r.lexicon with
  | error e => rw [hc] at h; cases h
  | ok is =>
    rw [hc] at h
    change (if _ then _ else _) = _ at h
    split at h
    · cases h
    · rename_i hname
      cases h
      exact ⟨.of_compileAll hc, by simpa using hname, rfl⟩

theorem setActiveLocale_eq (r : Resolver) (locale : String) :
    ∃ active, r.setActiveLocale locale = { r with activeLocale := active } := by
  unfold setActiveLocale
  dsimp only
  split
  · exact ⟨r.activeLocale, rfl⟩
  · exact ⟨_, rfl⟩

theorem follow_eq (r : Resolver) (locale : String) (res : Resolution) :
    ∃ active, r.follow locale res = { r with activeLocale := active } := by
  cases res with
  | resolved i => exact setActiveLocale_eq r locale
  | ignored reason => exact ⟨r.activeLocale, rfl⟩
  | rejected reason text locale => exact ⟨r.activeLocale, rfl⟩

def withCache (r : Resolver) (c : IntentCache) : Resolver :=
  { r with cache := c }

theorem resolveContent_of_error {r : Resolver} {supply : Supply} {lex : Lexicon}
    {today : Calendar.Date} {explicit : Option String} {content : String} {trace : Trace}
    {e : CatalogError} (h : (supply r (r.localeOf explicit content) lex).1 = .error e) :
    r.resolveContent supply lex today explicit content trace =
      (.error e, r.withCache (supply r (r.localeOf explicit content) lex).2) := by
  unfold resolveContent
  dsimp only
  rw [h]
  rfl

theorem resolveContent_of_ok {r : Resolver} {supply : Supply} {lex : Lexicon}
    {today : Calendar.Date} {explicit : Option String} {content : String} {trace : Trace}
    {is : List Intent} (h : (supply r (r.localeOf explicit content) lex).1 = .ok is) :
    r.resolveContent supply lex today explicit content trace =
      let locale := r.localeOf explicit content
      let answer := r.resolveAmong lex today locale content is trace
      (.ok answer, (r.withCache (supply r locale lex).2).follow locale answer.1) := by
  unfold resolveContent
  dsimp only
  rw [h]
  rfl

theorem resolveContent_snd (r : Resolver) (supply : Supply) (lex : Lexicon) (today : Calendar.Date)
    (explicit : Option String) (content : String) (trace : Trace) :
    ∃ active, (r.resolveContent supply lex today explicit content trace).2 =
      { r with
        activeLocale := active
        cache := (supply r (r.localeOf explicit content) lex).2 } := by
  unfold resolveContent
  dsimp only
  cases (supply r (r.localeOf explicit content) lex).1 with
  | error e => exact ⟨r.activeLocale, rfl⟩
  | ok is => exact follow_eq _ _ _

/-- A resolution changes a resolver in its cache and its active locale at most. -/
theorem resolveUnder_snd (r : Resolver) (supply : Supply) (lex : Lexicon) (today : Calendar.Date)
    (utterance : String) (explicit : Option String) :
    (r.resolveUnder supply lex today utterance explicit).2 = r ∨
      ∃ active locale, (r.resolveUnder supply lex today utterance explicit).2 =
        { r with activeLocale := active, cache := (supply r locale lex).2 } := by
  unfold resolveUnder
  rcases r.hear utterance explicit with ⟨reason, trace⟩ | ⟨content, trace⟩
  · exact .inl rfl
  · obtain ⟨active, h⟩ := resolveContent_snd r supply lex today explicit content trace
    exact .inr ⟨active, _, h⟩

end Resolver

def Resolver.plain : Resolver where
  settings := {}
  lexicon := .empty
  activeLocale := "es-CR"

/-- A spec whose one phrase is a canonical phrase and a synonym. -/
def Spec.listedTwice : Spec where
  name := "open"
  action := .typed "open" none
  phrases := .ofList [("es", { canonical := ["abre"], synonyms := ["abre"] })]

namespace Session

open Resolver

/-- What stays true of a resolver in use. -/
structure Sound (s : Session) : Prop where
  revisions : s.snapshots.Pairwise fun a b => b.revision < a.revision
  names : (s.resolver.specs.map Spec.name).Nodup
  compiles : ∀ spec ∈ s.resolver.specs, spec.Compiles
  /-- The cache was filled under the one state of the lexicon whose revision it has. -/
  cached : s.resolver.cache.entries = [] ∨ ∃ lex ∈ s.snapshots,
    lex.revision = s.resolver.cache.revision ∧ Holds s.resolver.specs lex s.resolver.cache

def start (r : Resolver) (detector : Locale.Detector) : Session :=
  ⟨{ r with detector }, []⟩

theorem Sound.of_create {settings : Settings} {lex : Lexicon} {r : Resolver}
    (h : Resolver.create settings lex = .ok r) (detector : Locale.Detector) :
    (start r detector).Sound := by
  unfold Resolver.create at h
  split at h
  · cases h
  · cases h
    exact ⟨List.pairwise_singleton _ _, List.nodup_nil, List.forall_mem_nil _,
      .inl rfl⟩

variable {s : Session}

theorem Sound.eq_of_revision (h : s.Sound) {lex lex' : Lexicon} (hl : lex ∈ s.snapshots)
    (hl' : lex' ∈ s.snapshots) (he : lex.revision = lex'.revision) : lex = lex' := by
  have hnodup : (s.snapshots.map Lexicon.revision).Nodup :=
    List.pairwise_map.2 (h.revisions.imp fun hab => (Nat.ne_of_lt hab).symm)
  exact List.inj_on_of_nodup_map hnodup hl hl' he

/-- Brought up to a state of the lexicon, the cache holds what that state gives. -/
theorem Sound.holds_sync (h : s.Sound) {lex : Lexicon} (hl : lex ∈ s.snapshots) :
    Holds s.resolver.specs lex (s.resolver.cache.sync lex.revision) := by
  unfold IntentCache.sync IntentCache.isCurrent
  split
  · rename_i hrev
    rcases h.cached with hnil | ⟨lex', hl', hrev', hholds⟩
    · exact .of_entries_nil hnil
    · rwa [h.eq_of_revision hl hl' (hrev'.trans (by simpa using hrev)).symm]
  · exact .of_entries_nil rfl

theorem revision_sync (c : IntentCache) (revision : Nat) : (c.sync revision).revision = revision := by
  unfold IntentCache.sync IntentCache.isCurrent
  split
  · rename_i h
    simpa using h
  · rfl

/-- The intents that a resolver in use gets are those compiled anew, recast; the cache afterwards
holds what the same state of the lexicon gives. -/
theorem Sound.fetched (h : s.Sound) {lex : Lexicon} (hl : lex ∈ s.snapshots) (locale : String) :
    (s.resolver.intentsFor locale lex).1 =
        ((wanted s.resolver.specs locale).mapM (Wanted.compile · locale lex)).map
          (List.map (recast s.resolver.specs)) ∧
      Holds s.resolver.specs lex (s.resolver.intentsFor locale lex).2 ∧
      (s.resolver.intentsFor locale lex).2.revision = lex.revision := by
  unfold Resolver.intentsFor
  have hf := fetch_spec [] (wanted s.resolver.specs locale) rfl (h.holds_sync hl)
    (List.forall_mem_nil _)
  have hrecast : ((wanted s.resolver.specs locale).map (settle s.resolver.specs locale)).mapM
      (Wanted.compile · locale lex) = _ :=
    mapM_map_of_forall fun w hw => compile_settle h.names hw lex
  exact ⟨hf.1.trans hrecast, hf.2.1, hf.2.2.trans (revision_sync _ _)⟩

theorem Sound.register (h : s.Sound) {spec : Spec} {r : Resolver}
    (hr : s.resolver.register spec = .ok r) : Sound { s with resolver := r } := by
  obtain ⟨hspec, hname, rfl⟩ := register_eq_ok hr
  refine ⟨h.revisions, ?_, ?_, .inl rfl⟩
  · rw [List.map_append]
    refine List.nodup_append.2 ⟨h.names, List.nodup_singleton _, fun a ha b hb => ?_⟩
    obtain ⟨t, ht, rfl⟩ := List.mem_map.1 ha
    rw [List.mem_singleton.1 hb]
    exact hname t ht
  · intro t ht
    rcases List.mem_append.1 ht with ht | ht
    · exact h.compiles t ht
    · rwa [List.mem_singleton.1 ht]

theorem Sound.registerAll (h : s.Sound) (specs : List Spec) :
    Sound { s with resolver := (s.resolver.registerAll specs).1 } := by
  induction specs generalizing s with
  | nil => exact h
  | cons spec specs ih =>
    rw [Resolver.registerAll]
    cases hr : s.resolver.register spec with
    | error e => exact h
    | ok r => exact ih (h.register hr)

theorem Sound.edit (h : s.Sound) (e : Lexicon.Edit) : (s.edit e).Sound := by
  refine ⟨List.pairwise_cons.2 ⟨fun lex hlex => ?_, h.revisions⟩, h.names, h.compiles, ?_⟩
  · change lex.revision < (s.resolver.lexicon.edit e).revision
    rw [Lexicon.revision_edit]
    rcases List.mem_cons.1 hlex with rfl | hlex
    · exact Nat.lt_succ_self _
    · exact ((List.pairwise_cons.1 h.revisions).1 lex hlex).trans (Nat.lt_succ_self _)
  · rcases h.cached with hnil | ⟨lex, hlex, hheld⟩
    · exact .inl hnil
    · exact .inr ⟨lex, List.mem_cons_of_mem _ hlex, hheld⟩

theorem Sound.edits (h : s.Sound) (es : List Lexicon.Edit) :
    (es.foldl Session.edit s).Sound := by
  induction es generalizing s with
  | nil => exact h
  | cons e es ih => exact ih (h.edit e)

theorem Sound.setActiveLocale (h : s.Sound) (locale : String) :
    Sound { s with resolver := s.resolver.setActiveLocale locale } := by
  obtain ⟨active, ha⟩ := setActiveLocale_eq s.resolver locale
  rw [ha]
  exact ⟨h.revisions, h.names, h.compiles, h.cached⟩

theorem Sound.resolveUnder (h : s.Sound) {lex : Lexicon} (hl : lex ∈ s.snapshots)
    (today : Calendar.Date) (utterance : String) (explicit : Option String) :
    Sound { s with resolver :=
      (s.resolver.resolveUnder intentsFor lex today utterance explicit).2 } := by
  rcases resolveUnder_snd s.resolver intentsFor lex today utterance explicit with
    hr | ⟨active, locale, hr⟩
  · rwa [hr]
  · rw [hr]
    obtain ⟨-, hholds, hrev⟩ := h.fetched hl locale
    exact ⟨h.revisions, h.names, h.compiles, .inr ⟨lex, hl, hrev.symm, hholds⟩⟩

/-- Every operation keeps what is true of a resolver in use. -/
theorem Sound.step (h : s.Sound) (op : Operation) : (s.step intentsFor op).2.Sound := by
  cases op with
  | register spec =>
    rw [Session.step]
    cases hr : s.resolver.register spec with
    | error e => exact h
    | ok r => exact h.register hr
  | registerAll specs => exact h.registerAll specs
  | loadCatalog c => exact (h.edits c.edits).registerAll c.specs
  | edit e => exact h.edit e
  | setActiveLocale locale => exact h.setActiveLocale locale
  | observe => exact h
  | resolve today utterance explicit age =>
    exact h.resolveUnder (s.snapshot_mem age) today utterance explicit

theorem Sound.after (h : s.Sound) (ops : List Operation) : (s.after intentsFor ops).Sound := by
  induction ops generalizing s with
  | nil => exact h
  | cons op ops ih => exact ih (h.step op)

end Session

end Parlance
