import Parlance.Ranking.Capture
import Parlance.Resolver.Basic
import Parlance.Resolver.Resolution

/-!
Resolving an utterance: the wake gate, the locale, normalization, the intents of the locale, their
ranking, and the first candidate whose payload is accepted.
-/

namespace Parlance.Resolver

open Ranking

/-- What a resolution ends with: a result with its steps, or a phrase that does not compile. -/
abbrev Outcome := Except CatalogError (Resolution × Trace)

def payloadOf (u : Text.Normalized) (context : Slot.Context) (c : Candidate) : Payload :=
  let captures := match c.kind with
    | .exact => c.captures
    | .fuzzy => syntheticCapture c.intent u context
  extractPayload c.intent captures context

/-- The payload of a candidate, if its spec accepts it. -/
def accepted? (u : Text.Normalized) (context : Slot.Context) (c : Candidate) : Option Payload :=
  let p := payloadOf u context c
  if c.intent.spec.accepts p then some p else none

def qualifying (m : Matching) (ranked : List Candidate) : List Candidate :=
  ranked.takeWhile fun c => m.threshold ≤ c.score

def provenance (locale : String) (c : Candidate) : Provenance where
  spec := c.intent.spec.name
  matchedPhrase := c.intent.phrase
  phraseKind := c.intent.kind
  intentId := c.intent.id
  score := c.score
  via := c.kind
  locale := locale
  labels := ((c.intent.spec.packFor? locale).map fun p => p.2.labels).getD []

/-- The result of walking down the ranked candidates, and the trace of the walk. -/
def walk (m : Matching) (u : Text.Normalized) (context : Slot.Context) (ranked : List Candidate)
    (trace : Trace) : Resolution × Trace :=
  let tried := qualifying m ranked
  let attempt := accepted? u context
  let trace := { trace with
    stage := .ranked
    ranked := (ranked.take m.topK).map fun (c : Candidate) => ⟨c.intent.id, c.score, c.kind⟩
    discarded := (tried.takeWhile fun c => (attempt c).isNone).map fun (c : Candidate) => c.intent.id }
  match tried.findSome? fun c => (attempt c).map (c, ·) with
  | some (c, payload) =>
    (.resolved (.of c.intent.spec payload (provenance context.locale c)),
      { trace with stage := .resolved, entities := some payload })
  | none =>
    let reason := if tried.isEmpty then .noQualifyingMatch else .validationFailed
    (.rejected reason u.text context.locale, { trace with stage := .rejected })

/-- The locale of what was said, among the one asked for, the active one and the fallbacks. -/
def localeOf (r : Resolver) (explicit : Option String) (content : String) : String :=
  (r.detector.detect content
    (Locale.candidates explicit r.activeLocale r.settings.fallbackLocales)).getD r.activeLocale

/-- A way to get the intents for a locale under a state of the lexicon, with the cache afterwards. -/
abbrev Supply := Resolver → String → Lexicon → Except CatalogError (List Intent) × IntentCache

/-- The resolution of what was said in a locale, among the intents of that locale. -/
def resolveAmong (r : Resolver) (lex : Lexicon) (today : Calendar.Date) (locale content : String)
    (intents : List Intent) (trace : Trace) : Resolution × Trace :=
  let u := Text.normalize lex locale content
  let trace := { trace with
    locale := some locale, normalizedText := some u.text, tokens := u.tokens }
  let m := r.settings.matching
  walk m u ⟨locale, today⟩ (rank m u intents) trace

/-- An utterance that is resolved makes its locale the active one. -/
def follow (r : Resolver) (locale : String) : Resolution → Resolver
  | .resolved _ => r.setActiveLocale locale
  | _ => r

/-- Resolves what is left behind the wake phrase, under a state of the lexicon. -/
def resolveContent (r : Resolver) (supply : Supply) (lex : Lexicon) (today : Calendar.Date)
    (explicit : Option String) (content : String) (trace : Trace) : Outcome × Resolver :=
  let locale := r.localeOf explicit content
  let (intents, cache) := supply r locale lex
  let r := { r with cache }
  match intents with
  | .error e => (.error e, r)
  | .ok intents =>
    let answer := r.resolveAmong lex today locale content intents trace
    (.ok answer, r.follow locale answer.1)

/-- What the wake gate finds at the beginning of an utterance without blanks around it. -/
def detectWake (r : Resolver) (explicit : Option String) (input : String) : Wake.Detection :=
  Wake.detect r.settings.wake.toListening (explicit.getD r.activeLocale) r.wakeEntries input

/-- What an utterance says behind the wake phrase, or why it is passed over; with the trace so far. -/
def hear (r : Resolver) (utterance : String) (explicit : Option String) :
    Except (IgnoredReason × Trace) (String × Trace) :=
  let input := Text.trim utterance
  if input.isEmpty then .error (.emptyUtterance, {})
  else
    let wake := r.detectWake explicit input
    if !wake.matched then .error (.wakeNotDetected, {})
    else
      let trace : Trace := { wake := wake.result.map fun m => ⟨m.value, m.score, m.via⟩ }
      let content := Wake.strip input wake.result
      if content.isEmpty then .error (.emptyUtterance, trace) else .ok (content, trace)

/-- Resolves an utterance under a state of the lexicon; a locale may be asked for. -/
def resolveUnder (r : Resolver) (supply : Supply) (lex : Lexicon) (today : Calendar.Date)
    (utterance : String) (explicit : Option String) : Outcome × Resolver :=
  match r.hear utterance explicit with
  | .error (reason, trace) => (.ok (.ignored reason, trace), r)
  | .ok (content, trace) => r.resolveContent supply lex today explicit content trace

/-- Resolves an utterance under the lexicon as it is, with the intents of the cache. -/
def resolve (r : Resolver) (today : Calendar.Date) (utterance : String) (explicit : Option String) :
    Outcome × Resolver :=
  r.resolveUnder intentsFor r.lexicon today utterance explicit

/-- The trace, if the settings ask for it. -/
def shownTrace (r : Resolver) (t : Trace) : Option Trace :=
  if r.settings.trace then some t else none

end Parlance.Resolver
