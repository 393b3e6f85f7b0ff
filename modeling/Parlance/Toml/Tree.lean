import Parlance.Toml.Value

/-!
The tables of a document while it is read. A table is defined once: by a header, by keys with dots,
or in braces. A header may define a table that headers of its subtables have brought about.
-/

namespace Parlance.Toml

inductive Origin where
  /-- Only headers of tables inside it. -/
  | implicit
  /-- Keys with dots. -/
  | dotted
  | header
  deriving DecidableEq, Repr

inductive Entry where
  | value (v : Value)
  | table (origin : Origin) (fields : List (String × Entry))
  /-- Tables with one header each, the last one first. -/
  | tables (items : List (List (String × Entry)))

abbrev Tree := List (String × Entry)

inductive Fault where
  | malformed
  | duplicateKey (key : String)
  | notATable (key : String)
  deriving DecidableEq, Repr

namespace Tree

/-- Replaces what stands at a key, or adds the key. -/
def put (k : String) (e : Entry) : Tree → Tree
  | [] => [(k, e)]
  | f :: rest => if f.1 = k then (k, e) :: rest else f :: put k e rest

/-- Goes down to the table that a header's key is in, and changes it there. -/
def descend (f : Tree → Except Fault Tree) : (path : List String) → Tree → Except Fault Tree
  | [], t => f t
  | k :: path, t => do
    let e ← match t.lookup k with
      | none => pure (Entry.table .implicit (← descend f path []))
      | some (.value _) => throw (.notATable k)
      | some (.table origin fields) => pure (Entry.table origin (← descend f path fields))
      | some (.tables []) => pure (Entry.tables [← descend f path []])
      | some (.tables (last :: items)) => pure (Entry.tables ((← descend f path last) :: items))
    return t.put k e

/-- Defines the table of a header. -/
def openTable (k : String) (t : Tree) : Except Fault Tree :=
  match t.lookup k with
  | none => .ok (t.put k (.table .header []))
  | some (.table .implicit fields) => .ok (t.put k (.table .header fields))
  | some _ => .error (.duplicateKey k)

/-- Adds a table to the tables of a header in double brackets. -/
def openItem (k : String) (t : Tree) : Except Fault Tree :=
  match t.lookup k with
  | none => .ok (t.put k (.tables [[]]))
  | some (.tables items) => .ok (t.put k (.tables ([] :: items)))
  | some _ => .error (.duplicateKey k)

/-- Adds a value under a key with dots. On the way no table is entered that a header defined, and the
table that takes the value is one that keys with dots brought about, unless there are no dots. -/
def insert (v : Value) (takes : Bool) : (key : List String) → Tree → Except Fault Tree
  | [], _ => .error .malformed
  | [k], t =>
    if !takes || (t.lookup k).isSome then .error (.duplicateKey k) else .ok (t ++ [(k, .value v)])
  | k :: key, t => do
    let e ← match t.lookup k with
      | none => pure (Entry.table .dotted (← insert v true key []))
      | some (.value _) => throw (.notATable k)
      | some (.table .header _) => throw (.duplicateKey k)
      | some (.table origin fields) =>
        pure (Entry.table origin (← insert v (origin = .dotted) key fields))
      | some (.tables []) => throw (.notATable k)
      | some (.tables (last :: items)) => pure (Entry.tables ((← insert v false key last) :: items))
    return t.put k e

mutual

def ofEntry : Entry → Value
  | .value v => v
  | .table _ fields => .table (toFields fields)
  | .tables items => .array (toTables items).reverse

def toFields : Tree → Fields
  | [] => []
  | (k, e) :: rest => (k, ofEntry e) :: toFields rest

def toTables : List Tree → List Value
  | [] => []
  | t :: rest => .table (toFields t) :: toTables rest

end

end Tree

end Parlance.Toml
