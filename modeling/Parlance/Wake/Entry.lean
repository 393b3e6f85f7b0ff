import Parlance.Text.Words

/-!
Wake phrases: as they are configured and as they are listened for.
-/

namespace Parlance.Wake

/-- A configured wake phrase, plain or with details. -/
inductive WakeWord where
  | phrase (text : String)
  | entry (canonical : String) (aliases : List String) (minConfidence : Option Float)

namespace WakeWord

def text : WakeWord → String
  | phrase text => text
  | entry canonical _ _ => canonical

end WakeWord

/-- The least score of phrases that name none. -/
def defaultConfidence : Float := 0.75

/-- A wake phrase to listen for. -/
structure Entry where
  canonical : String
  aliases : List String
  minConfidence : Float

/-- The entry of a configured phrase. A plain phrase of several words may also be called by its last
word. -/
def WakeWord.entry? : WakeWord → Option Entry
  | .phrase text =>
    let ws := Text.words text
    match ws with
    | [] => none
    | [w] => some ⟨w, [], defaultConfidence⟩
    | _ => some ⟨Text.unwords ws, ws.getLast?.toList, defaultConfidence⟩
  | .entry canonical aliases minConfidence =>
    let canonical := Text.trim canonical
    if canonical.isEmpty then none
    else some ⟨canonical, (aliases.map Text.trim).filter (· ≠ ""),
      minConfidence.getD defaultConfidence⟩

/-- The entries of configured phrases; blank ones have none. -/
def entries (words : List WakeWord) : List Entry :=
  words.filterMap WakeWord.entry?

end Parlance.Wake
