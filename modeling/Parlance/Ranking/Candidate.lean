import Parlance.Template.Intent
import Parlance.Similarity

/-!
Ranking the intents for an utterance: those that match exactly, and those whose words are like it.
-/

namespace Parlance

/-- How intents are compared with utterances. -/
structure Matching where
  /-- Whether likeness counts at all. -/
  fuzzy : Bool := true
  /-- The least score that is accepted. -/
  threshold : Float := 0.82
  /-- The share of the threshold that the likeness has to reach. -/
  admissionFactor : Float := 0.8
  /-- Added for each word of the utterance that the lexicon replaced. -/
  synonymBonus : Float := 0.05
  /-- How many candidates a trace shows. -/
  topK : Nat := 5

inductive MatchKind where
  | exact
  | fuzzy
  deriving DecidableEq, Repr

structure Candidate where
  intent : Intent
  score : Float
  /-- The slot texts of an exact match. -/
  captures : Captures
  kind : MatchKind

namespace Ranking

/-- The smaller of two numbers, the other one if one of them is no number. -/
def least (a b : Float) : Float :=
  if a.isNaN then b else if b.isNaN then a else if a ≤ b then a else b

/-- The place of a double in the order of all doubles, that of their bits with the sign taken into
account: negative numbers, zeros with the negative one first, positive numbers, with what is no
number at either end. -/
def orderKey (x : Float) : Int :=
  let bits := x.toBits.toNat
  if bits < 0x8000000000000000 then bits else 0x7fffffffffffffff - (bits : Int)

def admission (m : Matching) : Float :=
  m.threshold * m.admissionFactor

def fuzzyScore (m : Matching) (likeness : Float) (substitutions : Nat) : Float :=
  least (likeness + m.synonymBonus * substitutions.toFloat) 1.0

/-- An intent as a candidate for an utterance. -/
def candidate? (m : Matching) (u : Text.Normalized) (i : Intent) : Option Candidate :=
  match i.matchText u with
  | some captures => some ⟨i, 1.0, captures, .exact⟩
  | none =>
    if m.fuzzy then
      let likeness := similarity i.normalizedPhrase u.text
      if admission m ≤ likeness then
        some ⟨i, fuzzyScore m likeness u.substitutions, .empty, .fuzzy⟩
      else none
    else none

def MatchKind.order : MatchKind → Nat
  | .exact => 0
  | .fuzzy => 1

/-- Whether a candidate may stand before another: a higher score first, and of equal scores the exact
one. -/
def before (a b : Candidate) : Bool :=
  let x := orderKey a.score
  let y := orderKey b.score
  y < x || (x = y && MatchKind.order a.kind ≤ MatchKind.order b.kind)

/-- The candidates for an utterance, best first; equal ones in the order of the intents. -/
def rank (m : Matching) (u : Text.Normalized) (intents : List Intent) : List Candidate :=
  (intents.filterMap (candidate? m u)).mergeSort before

end Ranking

end Parlance
