import Parlance.Ranking.Candidate
import Parlance.Wake.Gate

/-!
What a resolution comes to: an action to be taken, an utterance that is passed over, or one that
asks for no known action.
-/

namespace Parlance

/-- Where an action came from. -/
structure Provenance where
  spec : String
  matchedPhrase : String
  phraseKind : PhraseKind
  intentId : String
  score : Float
  via : MatchKind
  locale : String
  labels : List String

inductive ActionShape where
  | typed
  | scoped
  deriving DecidableEq, Repr

structure Invocation where
  type : String
  target : Option String
  scope : Option String
  shape : ActionShape
  /-- Absent when no slot has a value. -/
  payload : Option Payload
  metadata : Option Json
  provenance : Provenance

namespace Invocation

/-- The invocation of a spec's action. A scoped action has its verb as type and its scope as target,
and the scope of the spec counts where the action has none of its own. -/
def of (spec : Spec) (payload : Payload) (provenance : Provenance) : Invocation :=
  let payload := if payload.isEmpty then none else some payload
  match spec.action with
  | .typed type target =>
    ⟨type, target, spec.scope, .typed, payload, spec.metadata, provenance⟩
  | .scoped verb scope =>
    ⟨verb, scope, scope.or spec.scope, .scoped, payload, spec.metadata, provenance⟩

/-- What a dispatcher goes by. -/
def dispatchKey (i : Invocation) : String :=
  i.type ++ "::" ++ i.target.getD ""

end Invocation

inductive IgnoredReason where
  | emptyUtterance
  | wakeNotDetected
  deriving DecidableEq, Repr

inductive RejectionReason where
  /-- No candidate reached the threshold. -/
  | noQualifyingMatch
  /-- Some reached it, but none of their payloads was accepted. -/
  | validationFailed
  deriving DecidableEq, Repr

inductive Resolution where
  | resolved (invocation : Invocation)
  | ignored (reason : IgnoredReason)
  | rejected (reason : RejectionReason) (normalizedText locale : String)

inductive Stage where
  | awaitingWake
  | localeDetected
  | intentsCompiled
  | ranked
  | resolved
  | rejected
  deriving DecidableEq, Repr

structure WakeTrace where
  value : String
  score : Float
  via : Wake.Via

structure RankedTrace where
  intentId : String
  score : Float
  via : MatchKind

/-- The steps of a resolution. -/
structure Trace where
  stage : Stage := .awaitingWake
  wake : Option WakeTrace := none
  locale : Option String := none
  normalizedText : Option String := none
  tokens : List Text.Token := []
  /-- The best candidates. -/
  ranked : List RankedTrace := []
  /-- The intents whose payloads were not accepted, in the order tried. -/
  discarded : List String := []
  /-- The payload of the accepted candidate. -/
  entities : Option Payload := none

end Parlance
