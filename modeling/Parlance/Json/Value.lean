/-!
JSON values. Integers and reals are told apart, and the fields of an object are in key order, no
key twice.
-/

namespace Parlance

inductive Json where
  | null
  | bool (b : Bool)
  | integer (n : Int)
  | real (x : Float)
  | text (s : String)
  | array (items : List Json)
  | object (fields : List (String × Json))
  deriving Inhabited, BEq

namespace Json

/-- Puts a field in key order, in place of one with the same key. -/
def putField (k : String) (x : Json) : List (String × Json) → List (String × Json)
  | [] => [(k, x)]
  | f :: rest =>
    if k < f.1 then (k, x) :: f :: rest
    else if k = f.1 then (k, x) :: rest
    else f :: putField k x rest

/-- The object with the given fields; of two with one key the later counts. -/
def ofFields (fields : List (String × Json)) : Json :=
  .object (fields.foldl (fun l f => putField f.1 f.2 l) [])

def get? (j : Json) (k : String) : Option Json :=
  match j with
  | .object fields => (fields.find? (·.1 = k)).map (·.2)
  | _ => none

def texts (l : List String) : Json :=
  .array (l.map .text)

/-- The fields that are there. -/
def ofPresent (fields : List (String × Option Json)) : Json :=
  ofFields (fields.filterMap fun (k, x) => x.map fun x => (k, x))

end Json

end Parlance
