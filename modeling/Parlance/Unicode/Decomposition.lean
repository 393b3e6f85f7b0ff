import Parlance.Unicode.DecompositionTable
import Parlance.Unicode.Property

/-!
Canonical decomposition of characters, and the composition of Hangul syllables. Every canonical
composite other than a Hangul syllable ends in a mark, so once the marks of a decomposed text are
gone, only Hangul is left to compose.
-/

namespace Parlance.Unicode

namespace Hangul

def leadBase : Nat := 0x1100
def vowelBase : Nat := 0x1161
def tailBase : Nat := 0x11A7
def syllableBase : Nat := 0xAC00
def leadCount : Nat := 19
def vowelCount : Nat := 21
def tailCount : Nat := 28

/-- The letters of a syllable. -/
def decompose? (c : Nat) : Option (List Nat) :=
  if syllableBase ≤ c ∧ c < syllableBase + leadCount * vowelCount * tailCount then
    let i := c - syllableBase
    let lead := leadBase + i / (vowelCount * tailCount)
    let vowel := vowelBase + i % (vowelCount * tailCount) / tailCount
    if i % tailCount = 0 then some [lead, vowel] else some [lead, vowel, tailBase + i % tailCount]
  else none

/-- The syllable of a leading consonant and a vowel, or of an open syllable and its tail. -/
def compose? (a b : Nat) : Option Nat :=
  if leadBase ≤ a ∧ a < leadBase + leadCount ∧ vowelBase ≤ b ∧ b < vowelBase + vowelCount then
    some (syllableBase + ((a - leadBase) * vowelCount + (b - vowelBase)) * tailCount)
  else if syllableBase ≤ a ∧ a < syllableBase + leadCount * vowelCount * tailCount ∧
      (a - syllableBase) % tailCount = 0 ∧ tailBase < b ∧ b < tailBase + tailCount then
    some (a + (b - tailBase))
  else none

end Hangul

/-- Follows the one-step decompositions, at most `depth` deep. -/
def decomposeWithin : (depth : Nat) → Nat → List Nat
  | 0, c => [c]
  | depth + 1, c =>
    match decompositionSteps.at? c with
    | some l => l.flatMap (decomposeWithin depth)
    | none => [c]

/-- The full canonical decomposition of a character; no step sequence of Unicode is longer than
three. -/
def decomposeChar (c : Char) : List Char :=
  if c.toNat < 0xC0 then [c]
  else match Hangul.decompose? c.toNat with
    | some l => l.map Char.ofNat
    | none => (decomposeWithin 3 c.toNat).map Char.ofNat

/-- Joins neighbouring Hangul letters into syllables, from the left. -/
def composeHangul : List Char → List Char
  | [] => []
  | c :: rest => go c rest
where
  /-- Goes on with `c` as the last character so far. -/
  go (c : Char) : List Char → List Char
    | [] => [c]
    | d :: rest =>
      match Hangul.compose? c.toNat d.toNat with
      | some n => go (Char.ofNat n) rest
      | none => c :: go d rest

end Parlance.Unicode
