import Parlance.Lexicon.Basic
import Parlance.Text.Fold

/-!
Normalized texts: the words of an utterance or a template without the punctuation around them,
mapped through the lexicon and folded, each with its place in the text as given and in the
normalized text.
-/

namespace Parlance.Text

/-- A stretch between two byte offsets. -/
structure Span where
  start : Nat
  stop : Nat
  deriving DecidableEq, Repr

/-- Punctuation that may stand around a word. -/
def isEdgePunctuation (c : Char) : Bool :=
  ".,;:!?¡¿\"'()".toList.contains c

/-- The normalized form of a word, and whether the lexicon made another word of it. -/
structure NormalizedWord where
  text : String
  substituted : Bool
  deriving DecidableEq, Repr

/-- Normalizes a word; absent when it is nothing but punctuation. The lexicon is asked for the word
in lower case and then for its folded form, and an answer that folds to nothing does not count. -/
def normalizeWord (lex : Lexicon) (locale word : String) : Option NormalizedWord :=
  let core := trimWhere isEdgePunctuation word
  if core.isEmpty then none
  else
    let lowered := lowercase core
    let surface := fold lowered
    let known := (lex.canonical? locale lowered).or (lex.canonical? locale surface)
    match (known.map fold).filter (· ≠ "") with
    | some text => some ⟨text, text ≠ surface⟩
    | none => some ⟨surface, false⟩

/-- A word of a normalized text. -/
structure Token where
  /-- The word in lower case without the punctuation around it. -/
  surface : String
  text : String
  substituted : Bool
  /-- Where the word stands in the text as given. -/
  original : Span
  /-- Where `text` stands in the normalized text. -/
  normalized : Span
  deriving DecidableEq, Repr

/-- Where a word starts that is added to a text of `length` bytes: behind a space, unless the text is
still empty. -/
def nextStart (length : Nat) : Nat :=
  if length = 0 then 0 else length + 1

/-- The token of a word whose normalized form is added to a text of `length` bytes. -/
def tokenOf (length : Nat) (w : Word) (n : NormalizedWord) : Token :=
  let lead := byteLength (w.chars.takeWhile isEdgePunctuation)
  let core := trimList isEdgePunctuation w.chars
  let start := nextStart length
  { surface := lowercase (String.ofList core)
    text := n.text
    substituted := n.substituted
    original := ⟨w.start + lead, w.start + lead + byteLength core⟩
    normalized := ⟨start, start + byteLength n.text.toList⟩ }

/-- The tokens of words, added to a text of `length` bytes. -/
def tokensFrom (lex : Lexicon) (locale : String) (length : Nat) : List Word → List Token
  | [] => []
  | w :: rest =>
    match normalizeWord lex locale w.text with
    | none => tokensFrom lex locale length rest
    | some n =>
      let t := tokenOf length w n
      t :: tokensFrom lex locale t.normalized.stop rest

/-- Adds a word to a text, behind a space unless the text is still empty. -/
def appendWord (text word : String) : String :=
  if text.isEmpty then word else text ++ " " ++ word

/-- A text and its normalized form. -/
structure Normalized where
  original : String
  text : String
  tokens : List Token
  deriving DecidableEq, Repr

def normalize (lex : Lexicon) (locale input : String) : Normalized :=
  let tokens := tokensFrom lex locale 0 (placedWords input)
  ⟨input, (tokens.map Token.text).foldl appendWord "", tokens⟩

namespace Normalized

/-- How many tokens the lexicon made other words of. -/
def substitutions (n : Normalized) : Nat :=
  n.tokens.countP Token.substituted

/-- The text as given from the first token to the last. -/
def between (n : Normalized) (first last : Token) : Option String :=
  slice? n.original first.original.start last.original.stop

/-- The text as given of a stretch of the normalized text that starts and ends with tokens. -/
def originalSpan (n : Normalized) (s : Span) : Option String := do
  let first ← n.tokens.find? (·.normalized.start = s.start)
  let last ← n.tokens.find? (·.normalized.stop = s.stop)
  n.between first last

/-- The text as given of the tokens from number `start` to before number `stop`. -/
def originalTokens (n : Normalized) (s : Span) : Option String := do
  let first ← n.tokens[s.start]?
  let last ← if s.stop = 0 then none else n.tokens[s.stop - 1]?
  n.between first last

end Normalized

end Parlance.Text
