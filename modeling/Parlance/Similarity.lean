import Parlance.Text.Words

/-!
How alike two texts are: one minus the share of edits. An edit inserts, deletes or replaces one
character or swaps two neighbours, also when further edits come between the swapped ones.
-/

namespace Parlance

namespace EditDistance

/-- The place, counted from one, of the last `c` among the first `n` characters; zero without
one. -/
def lastPlace (l : Array Char) (c : Char) : (n : Nat) → Nat
  | 0 => 0
  | n + 1 => if l[n]? = some c then n + 1 else lastPlace l c n

/-- The distance of the first `i + 1` characters of `a` to the first `j + 1` of `b`, when `cost`
holds the distances of shorter beginnings. The last term swaps the last characters with the places
where each of them was met before, and edits away what stands between. -/
def step (cost : Nat → Nat → Nat) (a b : Array Char) (i j : Nat) : Nat :=
  let x := a.getD i '\x00'
  let y := b.getD j '\x00'
  let replaced := cost i j + (if x = y then 0 else 1)
  let plain := min (min (cost i (j + 1) + 1) (cost (i + 1) j + 1)) replaced
  let k := lastPlace a y i
  let l := lastPlace b x j
  if k = 0 ∨ l = 0 then plain
  else min plain (cost (k - 1) (l - 1) + (i - k) + 1 + (j - l))

def entry (rows : Array (Array Nat)) (i j : Nat) : Nat :=
  (rows.getD i #[]).getD j 0

def nextRow (a b : Array Char) (rows : Array (Array Nat)) (i : Nat) : Array Nat :=
  (List.range b.size).foldl (fun row j => row.push (step (entry (rows.push row)) a b i j)) #[i + 1]

/-- Row `i` holds the distances of the first `i` characters of `a` to the beginnings of `b`. -/
def table (a b : Array Char) : Array (Array Nat) :=
  (List.range a.size).foldl (fun rows i => rows.push (nextRow a b rows i)) #[Array.range (b.size + 1)]

end EditDistance

/-- The least number of edits that turn one text into the other. -/
def editDistance (a b : List Char) : Nat :=
  EditDistance.entry (EditDistance.table a.toArray b.toArray) a.length b.length

/-- Two texts compared regardless of case: the edits between them and the length of the longer. -/
structure Comparison where
  distance : Nat
  length : Nat
  deriving DecidableEq, Repr

namespace Comparison

def ofTexts (a b : String) : Comparison :=
  let x := Unicode.lowercase a.toList
  let y := Unicode.lowercase b.toList
  ⟨editDistance x y, max x.length y.length⟩

/-- One for equal texts, zero for texts that share nothing. -/
def score (c : Comparison) : Float :=
  if c.length = 0 then 1.0 else 1.0 - c.distance.toFloat / c.length.toFloat

end Comparison

/-- How alike two texts are, from zero to one. The empty text is like no text. -/
def similarity (a b : String) : Float :=
  if a.isEmpty || b.isEmpty then 0.0 else (Comparison.ofTexts a b).score

end Parlance
