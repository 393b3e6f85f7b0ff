import Parlance.Proofs.Ranking.Exact
import Parlance.Proofs.Resolver.Totality

/-!
Actions and the catalog they come from. Main statement: `coherent_after`, that in every run an action
that is resolved is that of a registered spec, asked for by a phrase of its pack, with a payload that the
spec accepts.
-/

namespace Parlance

def PhrasePack.ofKind (p : PhrasePack) : PhraseKind → List String
  | .canonical => p.canonical
  | .synonym => p.synonyms

theorem PhrasePack.mem_phrases {p : PhrasePack} {phrase : String} {kind : PhraseKind} :
    (phrase, kind) ∈ p.phrases ↔ phrase ∈ p.ofKind kind := by
  cases kind <;> simp [phrases, ofKind]

theorem Spec.accepts_iff {spec : Spec} {p : Payload} :
    spec.accepts p = true ↔ (∀ slot ∈ spec.slots, slot.required = true → slot.name ∈ p.keys) ∧
      ∀ f, spec.condition = some f → f p = true := by
  unfold accepts
  rw [Bool.and_eq_true, List.all_eq_true]
  apply and_congr
  · simp [OrderedMap.mem_keys_iff, OrderedMap.contains, Option.isSome_iff_exists]
  · cases spec.condition <;> simp

theorem Invocation.payload_of (spec : Spec) (payload : Payload) (p : Provenance) :
    (Invocation.of spec payload p).payload = if payload.keys = [] then none else some payload := by
  have hempty : (payload.isEmpty = true) = (payload.keys = []) := by
    simp [OrderedMap.isEmpty, OrderedMap.keys]
  unfold Invocation.of
  simp only [hempty]
  split <;> rfl

theorem Invocation.action_of (spec : Spec) (payload : Payload) (p : Provenance) :
    let inv := Invocation.of spec payload p
    inv.metadata = spec.metadata ∧
      match spec.action with
      | .typed type target =>
        inv.type = type ∧ inv.target = target ∧ inv.scope = spec.scope ∧ inv.shape = .typed
      | .scoped verb scope =>
        inv.type = verb ∧ inv.target = scope ∧ inv.scope = scope.or spec.scope ∧
          inv.shape = .scoped := by
  unfold Invocation.of
  cases spec.action <;> exact ⟨rfl, rfl, rfl, rfl, rfl⟩

namespace Ranking

/-- What the slot texts of an utterance are told by: a match, or failing one a search for them. -/
def Told (u : Text.Normalized) (context : Slot.Context) (i : Intent) :
    MatchKind → Captures → Prop
  | .exact, captures => i.matchText u = some captures
  | .fuzzy, captures => i.matchText u = none ∧ captures = syntheticCapture i u context

/-- A payload has a value for each slot whose text is told and can be read, and no others. -/
def Extracted (context : Slot.Context) (i : Intent) (captures : Captures) (p : Payload) : Prop :=
  ∀ name value, p.get? name = some value ↔
    ∃ s ∈ i.slots, s.name = name ∧
      ∃ raw, captures.get? name = some raw ∧ s.slot.read context raw = some value

/-- The value of a slot whose text is told and can be read. -/
def value? (context : Slot.Context) (captures : Captures) (s : SlotPattern) : Option Slot.Value :=
  (captures.get? s.name).bind (s.slot.read context)

theorem extractPayload_eq (i : Intent) (captures : Captures) (context : Slot.Context) :
    extractPayload i captures context =
      .ofList (i.slots.filterMap fun s => (value? context captures s).map (s.name, ·)) := by
  unfold extractPayload
  congr
  funext s
  unfold value?
  cases captures.get? s.name with
  | none => rfl
  | some raw => cases hread : s.slot.read context raw <;> simp [hread]

theorem map_fst_filterMap_sublist {α β : Type} (name : α → String) (f : α → Option β) (l : List α) :
    ((l.filterMap fun a => (f a).map (name a, ·)).map Prod.fst).Sublist (l.map name) := by
  induction l with
  | nil => exact .slnil
  | cons a l ih =>
    rw [List.filterMap_cons]
    cases f a with
    | none => exact ih.cons _
    | some x => exact ih.cons_cons _

theorem extracted_extractPayload {i : Intent} (h : (i.slots.map SlotPattern.name).Nodup)
    (context : Slot.Context) (captures : Captures) :
    Extracted context i captures (extractPayload i captures context) := by
  intro name value
  rw [extractPayload_eq, OrderedMap.get?_ofList_eq_some_iff
    (h.sublist (map_fst_filterMap_sublist _ _ i.slots)), List.mem_filterMap]
  apply exists_congr
  intro s
  apply and_congr_right
  intro hs
  simp only [value?, Option.map_eq_some_iff, Option.bind_eq_some_iff, Prod.mk.injEq]
  constructor
  · rintro ⟨x, ⟨raw, hraw, hread⟩, rfl, rfl⟩
    exact ⟨rfl, raw, hraw, hread⟩
  · rintro ⟨rfl, raw, hraw, hread⟩
    exact ⟨value, ⟨raw, hraw, hread⟩, rfl, rfl⟩

end Ranking

namespace Resolver

open Ranking Template

/-- An action and its payload as they follow from a spec. -/
structure Coherent (m : Matching) (spec : Spec) (payload : Payload) (inv : Invocation) : Prop where
  name : inv.provenance.spec = spec.name
  listed : ∃ tag pack, spec.packFor? inv.provenance.locale = some (tag, pack) ∧
    inv.provenance.matchedPhrase ∈ pack.ofKind inv.provenance.phraseKind ∧
    inv.provenance.labels = pack.labels
  reached : m.threshold ≤ inv.provenance.score
  atMostOne : inv.provenance.score ≤ 1.0
  exactly : inv.provenance.via = .exact → inv.provenance.score = 1.0
  action : match spec.action with
    | .typed type target =>
      inv.type = type ∧ inv.target = target ∧ inv.scope = spec.scope ∧ inv.shape = .typed
    | .scoped verb scope =>
      inv.type = verb ∧ inv.target = scope ∧ inv.scope = scope.or spec.scope ∧ inv.shape = .scoped
  metadata : inv.metadata = spec.metadata
  /-- The keys are slots of the phrase that the spec declares. -/
  keys : ∃ us, Template.parse inv.provenance.matchedPhrase = .ok us ∧
    ∀ name ∈ payload.keys, name ∈ slotNames us ∧ ∃ slot ∈ spec.slots, slot.name = name
  required : ∀ slot ∈ spec.slots, slot.required = true → slot.name ∈ payload.keys
  condition : ∀ f, spec.condition = some f → f payload = true
  payload : inv.payload = if payload.keys = [] then none else some payload
  slotless : ∀ us, Template.parse inv.provenance.matchedPhrase = .ok us → slotNames us = [] →
    inv.payload = none

variable {specs : List Spec} {lex : Lexicon} {locale : String} {m : Matching} {u : Text.Normalized}

theorem listed_of_mem_wanted {w : Wanted} (h : w ∈ wanted specs locale) :
    w.spec ∈ specs ∧ ∃ tag pack, w.spec.packFor? locale = some (tag, pack) ∧
      w.phrase ∈ pack.ofKind w.kind := by
  refine ⟨spec_mem_of_mem_wanted h, ?_⟩
  obtain ⟨spec, -, hw⟩ := List.mem_flatMap.1 h
  split at hw
  · rename_i tag pack hpack
    obtain ⟨⟨phrase, kind⟩, hp, rfl⟩ := List.mem_map.1 hw
    exact ⟨tag, pack, hpack, PhrasePack.mem_phrases.1 hp⟩
  · cases hw

/-- The slots of an intent are those of its phrase, and its spec declares them. -/
theorem slots_of_compile {w : Wanted} {i : Intent} (h : w.compile locale lex = .ok i) :
    ∃ us, Template.parse w.phrase = .ok us ∧ (i.slots.map SlotPattern.name).Nodup ∧
      ∀ s ∈ i.slots, s.name ∈ slotNames us ∧ s.slot ∈ w.spec.slots := by
  obtain ⟨us, hparse, -, -, hcompiled⟩ := Intent.compiled_of_compile h
  refine ⟨us, hparse, hcompiled.names ▸ hcompiled.nodup, fun s hs => ⟨?_, ?_⟩⟩
  · exact hcompiled.names ▸ List.mem_map_of_mem hs
  · obtain ⟨hslot, -⟩ := mem_slotsOf (hcompiled.slots ▸ hs)
    exact List.mem_of_find?_eq_some hslot

theorem told_of_candidate {i : Intent} {c : Candidate} (h : candidate? m u i = some c)
    (context : Slot.Context) :
    ∃ captures, Told u context i c.kind captures ∧
      payloadOf u context c = extractPayload i captures context := by
  obtain ⟨captures, hmatch, rfl⟩ | ⟨-, hmatch, rfl⟩ := candidate?_cases h
  · exact ⟨captures, hmatch, rfl⟩
  · exact ⟨syntheticCapture i u context, ⟨hmatch, rfl⟩, rfl⟩

/-- What is told of the origin of a candidate's action. -/
theorem provenance_of_compile {w : Wanted} {c : Candidate} (hi : w.compile locale lex = .ok c.intent)
    {tag : String} {pack : PhrasePack} (hpack : w.spec.packFor? locale = some (tag, pack)) :
    provenance locale c =
      ⟨w.spec.name, w.phrase, w.kind, c.intent.id, c.score, c.kind, locale, pack.labels⟩ := by
  obtain ⟨hspec, hphrase, hkind, -⟩ := compile_fields hi
  unfold provenance
  rw [hspec, hphrase, hkind, hpack]
  rfl

/-- The action of a candidate whose payload its spec accepts. -/
theorem coherent_of_candidate {w : Wanted} (hw : w ∈ wanted specs locale) {c : Candidate}
    (hi : w.compile locale lex = .ok c.intent) (hc : candidate? m u c.intent = some c)
    (hq : Qualifies m c) {today : Calendar.Date} (ha : Accepted u ⟨locale, today⟩ c) :
    let payload := payloadOf u ⟨locale, today⟩ c
    Coherent m w.spec payload (.of c.intent.spec payload (provenance locale c)) ∧
      ∃ captures, Told u ⟨locale, today⟩ c.intent c.kind captures ∧
        Extracted ⟨locale, today⟩ c.intent captures payload := by
  intro payload
  obtain ⟨us, hparse, hnodup, hslots⟩ := slots_of_compile hi
  obtain ⟨-, tag, pack, hpack, hphrase⟩ := listed_of_mem_wanted hw
  obtain ⟨captures, htold, hpayload⟩ := told_of_candidate hc ⟨locale, today⟩
  have hextracted : Extracted ⟨locale, today⟩ c.intent captures payload := by
    have he := extracted_extractPayload hnodup ⟨locale, today⟩ captures
    rwa [← hpayload] at he
  refine ⟨?_, captures, htold, hextracted⟩
  have hspec : c.intent.spec = w.spec := (compile_fields hi).1
  have hkeys : ∀ name ∈ payload.keys,
      name ∈ slotNames us ∧ ∃ slot ∈ w.spec.slots, slot.name = name := by
    intro name hname
    obtain ⟨value, hvalue⟩ := OrderedMap.mem_keys_iff.1 hname
    obtain ⟨s, hs, rfl, -⟩ := (hextracted name value).1 hvalue
    obtain ⟨hin, hdeclared⟩ := hslots s hs
    exact ⟨hin, s.slot, hdeclared, rfl⟩
  have haccepts : w.spec.accepts payload = true := hspec ▸ ha
  obtain ⟨hrequired, hcondition⟩ := Spec.accepts_iff.1 haccepts
  rw [hspec, provenance_of_compile hi hpack]
  obtain ⟨hmetadata, haction⟩ := Invocation.action_of w.spec payload
    ⟨w.spec.name, w.phrase, w.kind, c.intent.id, c.score, c.kind, locale, pack.labels⟩
  exact {
    name := by rw [Invocation.provenance_of]
    listed := by
      rw [Invocation.provenance_of]
      exact ⟨tag, pack, hpack, hphrase, rfl⟩
    reached := by rwa [Invocation.provenance_of]
    atMostOne := by
      rw [Invocation.provenance_of]
      exact score_le_one hc
    exactly := by
      rw [Invocation.provenance_of]
      exact score_of_exact hc
    action := haction
    metadata := hmetadata
    keys := by
      rw [Invocation.provenance_of]
      exact ⟨us, hparse, hkeys⟩
    required := hrequired
    condition := hcondition
    payload := Invocation.payload_of w.spec payload _
    slotless := by
      rw [Invocation.provenance_of, Invocation.payload_of]
      intro us' hparse' hnone
      obtain rfl : us = us' := Except.ok.inj (hparse.symm.trans hparse')
      apply if_pos
      apply List.eq_nil_iff_forall_not_mem.2
      intro name hname
      rw [hnone] at hkeys
      exact List.not_mem_nil (hkeys name hname).1 }

end Resolver

/-- A spec whose phrase has a slot that payloads need. -/
def Spec.showing : Spec where
  name := "show"
  action := .scoped "show" (some "orders")
  phrases := .ofList [("es", { canonical := ["muestra \x7bcount\x7d"], labels := ["Mostrar"] })]
  slots := [{ name := "count", kind := .number, required := true }]

namespace Session

open Resolver Ranking

variable {s : Session}

theorem Sound.coherent (h : s.Sound) {today : Calendar.Date} {utterance : String}
    {explicit : Option String} {age : Nat} {inv : Invocation} {t : Trace}
    (hres : (s.step intentsFor (.resolve today utterance explicit age)).1 =
      .outcome (.ok (.resolved inv, t))) :
    ∃ spec ∈ s.resolver.specs, ∃ payload, t.entities = some payload ∧
      Coherent s.resolver.settings.matching spec payload inv ∧
      ∃ content trace i captures, s.resolver.hear utterance explicit = .ok (content, trace) ∧
        Intent.compile spec inv.provenance.matchedPhrase inv.provenance.phraseKind
          inv.provenance.locale (s.snapshot age) = .ok i ∧
        Told (Text.normalize (s.snapshot age) inv.provenance.locale content)
          ⟨inv.provenance.locale, today⟩ i inv.provenance.via captures ∧
        Extracted ⟨inv.provenance.locale, today⟩ i captures payload := by
  obtain ⟨content, trace, is, hheard, his, hwalk⟩ := h.exists_walk_of_resolved hres
  obtain ⟨c, hc, hq, ha, rfl, hentities⟩ := exists_candidate_of_walk (congrArg Prod.fst hwalk)
  obtain ⟨i, hi, hci⟩ := mem_rank.1 hc
  obtain rfl : c.intent = i := candidate?_intent hci
  obtain ⟨w, hw, hcompile⟩ := exists_of_mem_mapM his hi
  obtain ⟨hcoherent, captures, htold, hextracted⟩ := coherent_of_candidate hw hcompile hci hq ha
  obtain ⟨hspec, tag, pack, hpack, -⟩ := listed_of_mem_wanted hw
  have ht : t = _ := (congrArg Prod.snd hwalk).symm
  refine ⟨w.spec, hspec, _, ht ▸ hentities, hcoherent, content, trace, c.intent, captures, hheard, ?_⟩
  rw [Invocation.provenance_of, provenance_of_compile hcompile hpack]
  exact ⟨hcompile, htold, hextracted⟩

/-- In every run, an action that is resolved is that of a registered spec, for a phrase of the pack that
the spec has for its locale, and its payload is what the slots of the phrase were told and read. -/
theorem coherent_after {settings : Settings} {lex : Lexicon} {r : Resolver}
    (h : Resolver.create settings lex = .ok r) (detector : Locale.Detector) (ops : List Operation)
    {today : Calendar.Date} {utterance : String} {explicit : Option String} {age : Nat}
    {inv : Invocation} {t : Trace} :
    let s := (start r detector).after intentsFor ops
    (s.step intentsFor (.resolve today utterance explicit age)).1 =
        .outcome (.ok (.resolved inv, t)) →
      ∃ spec ∈ s.resolver.specs, ∃ payload, t.entities = some payload ∧
        Coherent s.resolver.settings.matching spec payload inv ∧
        ∃ content trace i captures, s.resolver.hear utterance explicit = .ok (content, trace) ∧
          Intent.compile spec inv.provenance.matchedPhrase inv.provenance.phraseKind
            inv.provenance.locale (s.snapshot age) = .ok i ∧
          Told (Text.normalize (s.snapshot age) inv.provenance.locale content)
            ⟨inv.provenance.locale, today⟩ i inv.provenance.via captures ∧
          Extracted ⟨inv.provenance.locale, today⟩ i captures payload :=
  ((Sound.of_create h detector).after ops).coherent

/-- The default resolver with one spec. -/
theorem coherent_after_showing :
    let s := (start .plain .standard).after intentsFor [.register .showing]
    let said := Operation.resolve ⟨2024, 5, 1, by decide⟩ "Muestra 12" none 0
    Resolver.create {} .empty = .ok .plain ∧
      ∃ inv t, (s.step intentsFor said).1 = .outcome (.ok (.resolved inv, t)) ∧
        ∃ spec ∈ s.resolver.specs, ∃ payload, t.entities = some payload ∧
          Coherent s.resolver.settings.matching spec payload inv := by
  intro s said
  have hcreate : Resolver.create {} .empty = .ok .plain := rfl
  obtain ⟨inv, t, hres⟩ : ∃ inv t, (s.step intentsFor said).1 = .outcome (.ok (.resolved inv, t)) :=
    Answer.exists_resolved (by decide +kernel)
  obtain ⟨spec, hspec, payload, hpayload, hcoherent, -⟩ :=
    coherent_after hcreate .standard [.register .showing] hres
  exact ⟨hcreate, inv, t, hres, spec, hspec, payload, hpayload, hcoherent⟩

end Session

end Parlance
