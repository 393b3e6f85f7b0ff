/-!
TOML values, and reading them as data of a wanted form.
-/

namespace Parlance.Toml

inductive Value where
  | text (s : String)
  | integer (n : Int)
  | real (x : Float)
  | bool (b : Bool)
  | dateTime (s : String)
  | array (items : List Value)
  | table (fields : List (String × Value))
  deriving Inhabited

abbrev Fields := List (String × Value)

/-- Why a value does not have the wanted form. -/
inductive Mismatch where
  | missing (field : String)
  | unexpected
  deriving DecidableEq, Repr

abbrev Read := Except Mismatch

namespace Value

def asText : Value → Read String
  | text s => .ok s
  | _ => .error .unexpected

def asBool : Value → Read Bool
  | bool b => .ok b
  | _ => .error .unexpected

/-- A real, or an integer as a real. -/
def asReal : Value → Read Float
  | real x => .ok x
  | integer n => .ok (Float.ofInt n)
  | _ => .error .unexpected

def asNat : Value → Read Nat
  | integer n => if 0 ≤ n then .ok n.toNat else .error .unexpected
  | _ => .error .unexpected

def asTable : Value → Read Fields
  | table fields => .ok fields
  | _ => .error .unexpected

def asList {α : Type} (f : Value → Read α) : Value → Read (List α)
  | array items => items.mapM f
  | _ => .error .unexpected

/-- The fields of a record, written as a table or as the list of the fields' values in order. -/
def asRecord (names : List String) : Value → Read Fields
  | table fields => .ok fields
  | array items => .ok (names.zip items)
  | _ => .error .unexpected

/-- A name out of a fixed list, alone or as the only key of a table that says no more. -/
def asName : Value → Read String
  | text s => .ok s
  | table [(s, table [])] => .ok s
  | table [(s, array [])] => .ok s
  | _ => .error .unexpected

end Value

namespace Fields

def optional {α : Type} (fields : Fields) (name : String) (f : Value → Read α) : Read (Option α) :=
  match fields.lookup name with
  | some v => (f v).map some
  | none => .ok none

def required {α : Type} (fields : Fields) (name : String) (f : Value → Read α) : Read α :=
  match fields.lookup name with
  | some v => f v
  | none => .error (.missing name)

def withDefault {α : Type} (fields : Fields) (name : String) (f : Value → Read α) (x : α) : Read α :=
  (fields.optional name f).map (·.getD x)

end Fields

end Parlance.Toml
