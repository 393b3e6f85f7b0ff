import Parlance.Catalog.Spec
import Parlance.Toml.Value

/-!
Catalogs as TOML documents.
-/

namespace Parlance

open Toml

namespace Json

mutual

/-- A TOML value as a JSON value. Infinities and what is no number become null, and a date or time an
object of one field that holds it. -/
def ofToml : Value → Json
  | .text s => .text s
  | .integer n => .integer n
  | .real x => if x.isFinite then .real x else .null
  | .bool b => .bool b
  | .dateTime s => .object [("$__toml_private_datetime", .text s)]
  | .array items => .array (itemsOfToml items)
  | .table fields => Json.ofFields (fieldsOfToml fields)

def itemsOfToml : List Value → List Json
  | [] => []
  | v :: rest => ofToml v :: itemsOfToml rest

def fieldsOfToml : List (String × Value) → List (String × Json)
  | [] => []
  | (k, v) :: rest => (k, ofToml v) :: fieldsOfToml rest

end

end Json

/-- A table with values of one form. -/
def OrderedMap.ofToml {α : Type} (f : Value → Read α) (v : Value) : Read (OrderedMap α) := do
  let fields ← v.asTable
  return .ofList (← fields.mapM fun (k, x) => do return (k, ← f x))

def Slot.Kind.ofToml (v : Toml.Value) : Read Slot.Kind := do
  match ← v.asName with
  | "string" => return .text
  | "number" => return .number
  | "enum" => return .choice
  | "boolean" => return .boolean
  | "date" => return .date
  | "range_number" => return .range
  | "custom" => return .custom
  | _ => throw .unexpected

def Slot.ofToml (v : Toml.Value) : Read Slot := do
  let fields ← v.asRecord ["name", "type", "pattern", "options", "required"]
  return {
    name := ← Fields.required fields "name" Toml.Value.asText
    kind := ← Fields.required fields "type" Slot.Kind.ofToml
    pattern := ← Fields.optional fields "pattern" Toml.Value.asText
    options := ← Fields.withDefault fields "options" (Toml.Value.asList Toml.Value.asText) []
    required := ← Fields.withDefault fields "required" Toml.Value.asBool false }

def PhrasePack.ofToml (v : Value) : Read PhrasePack := do
  let fields ← v.asRecord ["canonical", "synonyms", "labels"]
  let texts (name : String) := Fields.withDefault fields name (Value.asList Value.asText) []
  return {
    canonical := ← texts "canonical"
    synonyms := ← texts "synonyms"
    labels := ← texts "labels" }

/-- An action: its kind, and the fields of that kind, which a list has behind the kind in order. -/
def Action.ofToml (v : Value) : Read Action := do
  let (kind, names) ← match v with
    | .table fields => pure (← Fields.required fields "kind" Value.asText, none)
    | .array (.text kind :: items) => pure (kind, some items)
    | _ => throw .unexpected
  let fieldsOf (wanted : List String) : Read Fields :=
    match v, names with
    | .table fields, _ => .ok fields
    | _, some items =>
      if items.length ≤ wanted.length then .ok (wanted.zip items) else .error .unexpected
    | _, none => .error .unexpected
  match kind with
  | "typed" =>
    let fields ← fieldsOf ["type", "target"]
    return .typed (← fields.required "type" Value.asText) (← fields.optional "target" Value.asText)
  | "scoped" =>
    let fields ← fieldsOf ["verb", "scope"]
    return .scoped (← fields.required "verb" Value.asText) (← fields.optional "scope" Value.asText)
  | _ => throw .unexpected

def Spec.ofToml (v : Value) : Read Spec := do
  let fields ← v.asRecord ["name", "action", "scope", "locale", "phrases", "entities", "meta"]
  return {
    name := ← Fields.required fields "name" Value.asText
    action := ← Fields.required fields "action" Action.ofToml
    scope := ← Fields.optional fields "scope" Value.asText
    locale := ← Fields.optional fields "locale" Value.asText
    phrases := ← Fields.required fields "phrases" (OrderedMap.ofToml PhrasePack.ofToml)
    slots := ← Fields.withDefault fields "entities" (Value.asList Slot.ofToml) []
    metadata := ← Fields.optional fields "meta" fun v => .ok (Json.ofToml v) }

def Catalog.ofToml (fields : Fields) : Read Catalog := do
  return {
    specs := ← Fields.withDefault fields "specs" (Value.asList Spec.ofToml) []
    lexicon := ← Fields.withDefault fields "lexicon"
      (OrderedMap.ofToml (OrderedMap.ofToml Value.asText)) .empty }

end Parlance
