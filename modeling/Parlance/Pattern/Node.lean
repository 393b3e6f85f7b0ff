/-!
Patterns and the places where they can end in a text. The ends come in order of preference: the
first alternative before the second, more repetitions before fewer where they are greedy.
-/

namespace Parlance.Pattern

inductive Node where
  /-- The empty text. -/
  | empty
  /-- One character of a class. -/
  | one (p : Char → Bool)
  /-- A place between two neighbours, each absent at an end of the text. -/
  | look (p : Option Char → Option Char → Bool)
  | seq (a b : Node)
  | alt (a b : Node)
  /-- Nothing or the pattern. -/
  | opt (greedy : Bool) (a : Node)
  /-- The pattern once or more. -/
  | plus (greedy : Bool) (a : Node)

namespace Node

/-- The pattern any number of times. -/
def star (greedy : Bool) (a : Node) : Node :=
  .opt greedy (.plus greedy a)

def all : List Node → Node
  | [] => .empty
  | [a] => a
  | a :: rest => .seq a (all rest)

/-- Adds a place that was not reached before. -/
def addEnd (reached : List Nat) (i : Nat) : List Nat :=
  if reached.contains i then reached else reached ++ [i]

/-- The places reached from `i` by going on with a step any number of times, added to those reached
before. A step that stays in place is not taken; `rounds` bounds the number of steps. -/
def again (step : Nat → List Nat) (greedy : Bool) : (rounds : Nat) → List Nat → Nat → List Nat
  | 0, reached, i => addEnd reached i
  | rounds + 1, reached, i =>
    if reached.contains i then reached
    else
      let next := (step i).filter (i < ·)
      if greedy then next.foldl (again step greedy rounds) reached ++ [i]
      else next.foldl (again step greedy rounds) (reached ++ [i])

def before (t : Array Char) : Nat → Option Char
  | 0 => none
  | i + 1 => t[i]?

/-- The places where the pattern can end when it starts at a place, best first and none twice. -/
def ends (t : Array Char) : Node → Nat → List Nat
  | empty, i => [i]
  | one p, i =>
    match t[i]? with
    | some c => if p c then [i + 1] else []
    | none => []
  | look p, i => if p (before t i) t[i]? then [i] else []
  | seq a b, i => ((a.ends t i).flatMap (b.ends t)).foldl addEnd []
  | alt a b, i => (b.ends t i).foldl addEnd (a.ends t i)
  | opt greedy a, i =>
    if greedy then addEnd (a.ends t i) i else (a.ends t i).foldl addEnd [i]
  | plus greedy a, i =>
    (a.ends t i).foldl (fun reached j =>
      if j = i then addEnd reached i
      else again (a.ends t) greedy t.size reached j) []

def fits (a : Node) (s : String) : Bool :=
  let t := s.toList.toArray
  (a.ends t 0).contains t.size

end Node

/-- A piece of a pattern for a whole text; the stretches of the slots are kept. -/
inductive Piece where
  | fixed (a : Node)
  | slot (a : Node)

namespace Piece

/-- The first way, in order of preference, to cover the text from a place to its end, given by the
stretch of each slot. -/
def search (t : Array Char) : List Piece → Nat → Option (List (Nat × Nat))
  | [], i => if i = t.size then some [] else none
  | fixed a :: rest, i => (a.ends t i).findSome? (search t rest)
  | slot a :: rest, i => (a.ends t i).findSome? fun j => (search t rest j).map ((i, j) :: ·)

end Piece

end Parlance.Pattern
