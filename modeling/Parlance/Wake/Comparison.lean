import Parlance.Phonetic.Key
import Parlance.Similarity
import Parlance.Decimal.Shortest

/-!
Comparing the beginning of an utterance with a wake phrase and its aliases. A window as long as the
phrase slides over the first words, and the best window that is good enough is the match.
-/

namespace Parlance.Wake

/-- Which comparisons count besides equality. -/
inductive Strategy where
  | exact
  | phonetic
  | edit
  | hybrid
  deriving DecidableEq, Repr

inductive Via where
  | exact
  | phonetic
  | edit
  deriving DecidableEq, Repr

structure Options where
  locale : String := "es"
  minConfidence : Float := 0.75
  strategy : Strategy := .hybrid
  /-- How many of the first words a window may start at. -/
  maxCandidates : Nat := 3

inductive OptionFault where
  | confidence (given : Float)
  | noCandidates

namespace OptionFault

def message : OptionFault → String
  | confidence given => "min_confidence must be within 0.0..=1.0, got " ++ Decimal.text given
  | noCandidates => "max_candidates must be greater than 0"

end OptionFault

/-- Whether a number lies between zero and one, both included. -/
def isShare (x : Float) : Bool :=
  0.0 ≤ x && x ≤ 1.0

namespace Options

def fault? (o : Options) : Option OptionFault :=
  if !isShare o.minConfidence then some (.confidence o.minConfidence)
  else if o.maxCandidates = 0 then some .noCandidates
  else none

end Options

/-- A folded word of the input and its number. -/
structure MatchedToken where
  token : String
  index : Nat
  deriving DecidableEq, Repr

structure Match where
  score : Float
  /-- The phrase or alias that matched. -/
  value : String
  via : Via
  tokens : List MatchedToken

namespace Match

def first? (m : Match) : Option Nat :=
  m.tokens.head?.map MatchedToken.index

def last? (m : Match) : Option Nat :=
  m.tokens.getLast?.map MatchedToken.index

end Match

/-- The score of equal phonetic keys, and the weight of the likeness of different ones. -/
def phoneticWeight : Float := 0.9

def phoneticScore (locale window form : String) : Float :=
  let windowKey := Phonetic.key window locale
  let formKey := Phonetic.key form locale
  if windowKey.isEmpty || formKey.isEmpty then 0.0
  else if windowKey = formKey then phoneticWeight
  else similarity windowKey formKey * phoneticWeight

def windowScore (o : Options) (window form : String) : Option (Float × Via) :=
  if window = form then some (1.0, .exact)
  else
    let edit := similarity window form
    let phonetic := phoneticScore o.locale window form
    match o.strategy with
    | .exact => none
    | .edit => some (edit, .edit)
    | .phonetic => some (phonetic, .phonetic)
    | .hybrid => some (if edit < phonetic then (phonetic, .phonetic) else (edit, .edit))

/-- The folded words of the input, also those that fold to nothing. -/
def inputTokens (input : String) : List String :=
  (Text.words input).map Text.foldToken

def formTokens (form : String) : List String :=
  ((Text.words form).map Text.foldToken).filter (· ≠ "")

/-- Where a window of `length` words may start among `available` words. -/
def starts (o : Options) (length available : Nat) : List Nat :=
  if length = 0 ∨ available < length then []
  else List.range (min (available - length) (o.maxCandidates - 1) + 1)

/-- The windows for one form that are good enough, in order. -/
def formMatches (o : Options) (tokens : List String) (form : String) : List Match :=
  let wanted := formTokens form
  (starts o wanted.length tokens.length).filterMap fun start =>
    let window := (tokens.drop start).take wanted.length
    match windowScore o (Text.unwords window) (Text.unwords wanted) with
    | none => none
    | some (score, via) =>
      if score < o.minConfidence then none
      else some ⟨score, Text.trim form, via, (window.zipIdx start).map fun (t, i) => ⟨t, i⟩⟩

/-- The earliest of the entries with the highest score. -/
def earliestBest {α : Type} (score : α → Float) (l : List α) : Option α :=
  l.foldl (fun best x =>
    match best with
    | none => some x
    | some b => if score b < score x then some x else some b) none

/-- The best match of a phrase or one of its aliases; of equal ones that of the earlier form, then
the earlier window. -/
def compare (o : Options) (input canonical : String) (aliases : List String) : Option Match :=
  earliestBest Match.score ((canonical :: aliases).flatMap (formMatches o (inputTokens input)))

end Parlance.Wake
