import Parlance.Ranking.Candidate
import Parlance.Slot.Reading

/-!
Finding the slots of an intent in an utterance that does not match exactly, and reading slot texts
as a payload.
-/

namespace Parlance

namespace Ranking

/-- The most words that a slot may take of those that remain. -/
def longestWindow (kind : Slot.Kind) (remaining : Nat) : Nat :=
  match kind with
  | .number | .boolean | .choice | .date => min 1 remaining
  | .range | .custom => min 4 remaining
  | .text => remaining

/-- Windows of words from `start` on, the longest first. -/
def windowsAt (kind : Slot.Kind) (count start : Nat) : List Text.Span :=
  (List.range (longestWindow kind (count - start))).reverse.map fun n => ⟨start, start + n + 1⟩

/-- The windows a slot may take from word `cursor` on: none starts at a word of the template, an
earlier start comes first, then the longer one. -/
def windows (kind : Slot.Kind) (isLiteral : List Bool) (cursor : Nat) : List Text.Span :=
  let starts := (List.range isLiteral.length).filter fun i =>
    cursor ≤ i && !(isLiteral.getD i false)
  starts.flatMap (windowsAt kind isLiteral.length)

def windowText (words : List String) (s : Text.Span) : String :=
  Text.unwords ((words.drop s.start).take (s.stop - s.start))

/-- Whether a text fits the pattern of a slot and reads as its kind. -/
def isValueOf (context : Slot.Context) (p : SlotPattern) (text : String) : Bool :=
  p.accepts text && (p.slot.read context text).isSome

/-- The first window whose words fit the slot. -/
def findWindow (context : Slot.Context) (p : SlotPattern) (isLiteral : List Bool) (cursor : Nat)
    (words : List String) : Option Text.Span :=
  (windows p.slot.kind isLiteral cursor).find? fun s => isValueOf context p (windowText words s)

/-- The words of an utterance in the forms that slots are looked for in. -/
structure Scene where
  utterance : Text.Normalized
  normalized : List String
  original : List String
  /-- Which words are words of the template. -/
  isLiteral : List Bool

def Scene.of (i : Intent) (u : Text.Normalized) : Scene where
  utterance := u
  normalized := u.tokens.map Text.Token.text
  original := u.tokens.map fun t =>
    (Text.slice? u.original t.original.start t.original.stop).getD t.text
  isLiteral := u.tokens.map fun t => i.literals.contains t.text

/-- The window of a slot from word `cursor` on, among the normalized words and failing that among the
words as given. -/
def Scene.locate (s : Scene) (context : Slot.Context) (p : SlotPattern) (cursor : Nat) :
    Option Text.Span :=
  (findWindow context p s.isLiteral cursor s.normalized).or
    (findWindow context p s.isLiteral cursor s.original)

/-- The windows of slots one after the other, each behind the one before. -/
def Scene.locateAll (s : Scene) (context : Slot.Context) (cursor : Nat) :
    List SlotPattern → List (SlotPattern × Text.Span)
  | [] => []
  | p :: rest =>
    match s.locate context p cursor with
    | some w => (p, w) :: s.locateAll context w.stop rest
    | none => s.locateAll context cursor rest

/-- The texts of the slots that are found in an utterance, in its spelling. -/
def syntheticCapture (i : Intent) (u : Text.Normalized) (context : Slot.Context) : Captures :=
  .ofList (((Scene.of i u).locateAll context 0 i.slots).filterMap fun (p, w) =>
    (u.originalTokens w).map (p.name, ·))

/-- The values of the slots whose texts can be read. -/
def extractPayload (i : Intent) (c : Captures) (context : Slot.Context) : Payload :=
  .ofList (i.slots.filterMap fun p => do
    let raw ← c.get? p.name
    let value ← p.slot.read context raw
    some (p.name, value))

end Ranking

end Parlance
