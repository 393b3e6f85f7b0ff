import Parlance.Json.Value
import Parlance.Resolver.Resolution

/-!
Resolutions and traces as JSON.
-/

namespace Parlance

def PhraseKind.toJson : PhraseKind → Json
  | .canonical => .text "canonical"
  | .synonym => .text "synonym"

def MatchKind.toJson : MatchKind → Json
  | .exact => .text "exact"
  | .fuzzy => .text "fuzzy"

def Wake.Via.toJson : Wake.Via → Json
  | .exact => .text "exact"
  | .phonetic => .text "phonetic"
  | .edit => .text "edit"

def ActionShape.toJson : ActionShape → Json
  | .typed => .text "typed"
  | .scoped => .text "scoped"

def IgnoredReason.toJson : IgnoredReason → Json
  | .emptyUtterance => .text "empty_utterance"
  | .wakeNotDetected => .text "wake_not_detected"

def RejectionReason.toJson : RejectionReason → Json
  | .noQualifyingMatch => .text "no_qualifying_match"
  | .validationFailed => .text "validation_failed"

def Stage.toJson : Stage → Json
  | .awaitingWake => .text "awaiting_wake"
  | .localeDetected => .text "locale_detected"
  | .intentsCompiled => .text "intents_compiled"
  | .ranked => .text "ranked"
  | .resolved => .text "resolved"
  | .rejected => .text "rejected"

/-- Texts as an array, absent if there are none. -/
def Json.someTexts (l : List String) : Option Json :=
  if l.isEmpty then none else some (.texts l)

def Provenance.toJson (p : Provenance) : Json :=
  .ofPresent [
    ("spec", some (.text p.spec)),
    ("matched_phrase", some (.text p.matchedPhrase)),
    ("phrase_kind", some p.phraseKind.toJson),
    ("intent_id", some (.text p.intentId)),
    ("score", some (.real p.score)),
    ("via", some p.via.toJson),
    ("locale", some (.text p.locale)),
    ("labels", Json.someTexts p.labels)]

def Resolution.toJson : Resolution → Json
  | .resolved i =>
    .ofPresent [
      ("status", some (.text "resolved")),
      ("type", some (.text i.type)),
      ("target", i.target.map .text),
      ("scope", i.scope.map .text),
      ("shape", some i.shape.toJson),
      ("payload", i.payload.map Payload.toJson),
      ("meta", i.metadata),
      ("provenance", some i.provenance.toJson)]
  | .ignored reason =>
    .ofFields [("status", .text "ignored"), ("reason", reason.toJson)]
  | .rejected reason normalizedText locale =>
    .ofFields [
      ("status", .text "rejected"),
      ("reason", reason.toJson),
      ("normalized_text", .text normalizedText),
      ("locale", .text locale)]

def WakeTrace.toJson (w : WakeTrace) : Json :=
  .ofFields [("value", .text w.value), ("score", .real w.score), ("via", w.via.toJson)]

def RankedTrace.toJson (t : RankedTrace) : Json :=
  .ofFields [("intent_id", .text t.intentId), ("score", .real t.score), ("via", t.via.toJson)]

def Text.Token.toJson (t : Text.Token) : Json :=
  .ofFields [
    ("surface", .text t.surface), ("text", .text t.text), ("substituted", .bool t.substituted)]

def Trace.toJson (t : Trace) : Json :=
  .ofPresent [
    ("stage", some t.stage.toJson),
    ("wake", t.wake.map WakeTrace.toJson),
    ("locale", t.locale.map .text),
    ("normalized_text", t.normalizedText.map .text),
    ("tokens", some (.array (t.tokens.map Text.Token.toJson))),
    ("ranked", some (.array (t.ranked.map RankedTrace.toJson))),
    ("discarded", some (.texts t.discarded)),
    ("entities", t.entities.map Payload.toJson)]

end Parlance
