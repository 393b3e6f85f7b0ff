import Parlance.Wake.Comparison
import Parlance.Wake.Entry

/-!
The wake gate: an utterance passes when it begins with a wake phrase, which is then taken off.
Without wake phrases every utterance passes.
-/

namespace Parlance.Wake

structure Listening where
  strategy : Strategy := .hybrid
  maxCandidates : Nat := 3

def Listening.options (l : Listening) (locale : String) (minConfidence : Float) : Options :=
  ⟨locale, minConfidence, l.strategy, l.maxCandidates⟩

structure Detection where
  matched : Bool
  entry : Option Entry
  result : Option Match

/-- The best match of any entry, each held to its own confidence; of equal ones the earliest. -/
def detect (l : Listening) (locale : String) (entries : List Entry) (utterance : String) : Detection :=
  if entries.isEmpty then ⟨true, none, none⟩
  else
    let results := entries.filterMap fun e =>
      (compare (l.options locale e.minConfidence) utterance e.canonical e.aliases).map (e, ·)
    match earliestBest (·.2.score) results with
    | some (e, m) => ⟨true, some e, some m⟩
    | none => ⟨false, none, none⟩

/-- Words that are taken off together with the wake phrase they stand before. -/
def fillerWords : List String :=
  ["ok", "hey", "hola", "oye", "eh", "ey"]

/-- The first word to take off: the filler word before the match, if there is one. -/
def stripStart (words : List String) (first : Nat) : Nat :=
  match first with
  | 0 => 0
  | n + 1 =>
    match words[n]? with
    | some w => if fillerWords.contains (Text.foldToken w) then n else n + 1
    | none => n + 1

/-- The utterance without the matched words; without a match just trimmed. -/
def strip (utterance : String) (result : Option Match) : String :=
  match result.bind Match.first?, result.bind Match.last? with
  | some first, some last =>
    let words := Text.words utterance
    if words.length ≤ first then Text.trim utterance
    else Text.unwords (words.take (stripStart words first) ++ words.drop (last + 1))
  | _, _ => Text.trim utterance

end Parlance.Wake
