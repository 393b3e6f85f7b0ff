/-!
Look-ups in sorted tables keyed by code points. An entry of a table speaks for its own key or for a
run of code points that starts there.
-/

namespace Parlance.Unicode

universe u

/-- Entries in increasing order of their keys. -/
abbrev Table (α : Type u) := Array (Nat × α)

namespace Table

variable {α : Type u}

/-- How many of the entries below `hi` have a key not above `c`, when at least `lo` have; `steps`
halvings of the interval are enough once `2 ^ steps` exceeds its length. -/
def countUpTo (t : Table α) (c : Nat) : (steps lo hi : Nat) → Nat
  | 0, lo, _ => lo
  | steps + 1, lo, hi =>
    if lo < hi then
      let mid := (lo + hi) / 2
      match t[mid]? with
      | some e => if e.1 ≤ c then countUpTo t c steps (mid + 1) hi else countUpTo t c steps lo mid
      | none => lo
    else lo

/-- The last entry whose key is not above `c`. -/
def floor? (t : Table α) (c : Nat) : Option (Nat × α) :=
  match t.countUpTo c t.size 0 t.size with
  | 0 => none
  | n + 1 => t[n]?

def at? (t : Table α) (c : Nat) : Option α :=
  match t.floor? c with
  | some (k, x) => if k = c then some x else none
  | none => none

end Table

/-- Sorted, disjoint ranges of code points, each given by its first and last. -/
abbrev Ranges := Table Nat

def Ranges.contains (r : Ranges) (c : Nat) : Bool :=
  match r.floor? c with
  | some (_, last) => c ≤ last
  | none => false

/-- A stretch of code points that a mapping shifts by one distance: from the key on, every `step`-th
code point up to `last`, the key itself to `image`. -/
structure Shift where
  last : Nat
  step : Nat
  image : Nat

/-- The image of `c` under the stretch that covers it. -/
def Table.shift? (t : Table Shift) (c : Nat) : Option Nat :=
  match t.floor? c with
  | some (first, s) =>
    if c ≤ s.last ∧ (c - first) % s.step = 0 then some (s.image + (c - first)) else none
  | none => none

/-- The code points that a table of stretches maps to `c`. -/
def Table.preimages (t : Table Shift) (c : Nat) : List Nat :=
  t.toList.filterMap fun (first, s) =>
    let d := c - s.image
    if s.image ≤ c ∧ first + d ≤ s.last ∧ d % s.step = 0 then some (first + d) else none

end Parlance.Unicode
