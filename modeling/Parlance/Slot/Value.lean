import Parlance.Calendar.Date
import Parlance.Json.Value
import Parlance.OrderedMap

/-!
Slots of phrases, the values they take, and the form of values in documents.
-/

namespace Parlance

open Calendar

namespace Slot

inductive Kind where
  | text
  | number
  | choice
  | boolean
  | date
  | range
  | custom
  deriving DecidableEq, Repr

inductive Value where
  | bool (b : Bool)
  | number (x : Float)
  | range (least most : Float)
  | date (d : Date)
  | text (s : String)
  | json (j : Json)

/-- What the reading of a slot may depend on. -/
structure Context where
  locale : String
  today : Date

end Slot

structure Slot where
  name : String
  kind : Slot.Kind
  /-- A pattern in place of that of the kind. -/
  pattern : Option String := none
  /-- The values to choose from; any word if there are none. -/
  options : List String := []
  /-- A payload without this slot is not accepted. -/
  required : Bool := false
  /-- A way to read the slot in place of that of the kind. -/
  reader : Option (String → Slot.Context → Option Slot.Value) := none

abbrev Payload := OrderedMap Slot.Value

namespace Slot.Value

def toJson : Value → Json
  | bool b => .bool b
  | number x => .real x
  | range least most => .ofFields [("min", .real least), ("max", .real most)]
  | date d => .text d.text
  | text s => .text s
  | json j => j

def realOf? : Json → Option Float
  | .real x => some x
  | .integer n => some (Float.ofInt n)
  | _ => none

/-- The bounds of an object with a least and a greatest number; its other fields do not count. -/
def boundsOf? (j : Json) : Option (Float × Float) := do
  let least ← (j.get? "min").bind realOf?
  let most ← (j.get? "max").bind realOf?
  some (least, most)

/-- The value that a JSON value stands for: the first kind it fits. -/
def ofJson (j : Json) : Value :=
  match j with
  | .bool b => .bool b
  | .real x => .number x
  | .integer n => .number (Float.ofInt n)
  | .text s =>
    match Date.read? true s with
    | some d => .date d
    | none => .text s
  | .object _ =>
    match boundsOf? j with
    | some (least, most) => .range least most
    | none => .json j
  | _ => .json j

end Slot.Value

namespace Payload

def toJson (p : Payload) : Json :=
  .object (p.entries.map fun e => (e.1, e.2.toJson))

/-- The payload that the fields of an object stand for. -/
def ofFields (fields : List (String × Json)) : Payload :=
  .ofList (fields.map fun f => (f.1, Slot.Value.ofJson f.2))

/-- The payload that an object stands for; no other value stands for one. -/
def ofJson? : Json → Option Payload
  | .object fields => some (ofFields fields)
  | _ => none

end Payload

end Parlance
