import Parlance.Settings.Basic
import Parlance.Toml.Value

/-!
Settings as TOML documents. What a document leaves out has its default, and fields it should not have
do not count.
-/

namespace Parlance

open Toml

namespace Wake

def Strategy.name : Strategy → String
  | .exact => "exact"
  | .phonetic => "phonetic"
  | .edit => "edit"
  | .hybrid => "hybrid"

def Strategy.ofToml (v : Value) : Read Strategy := do
  match ← v.asName with
  | "exact" => return .exact
  | "phonetic" => return .phonetic
  | "edit" => return .edit
  | "hybrid" => return .hybrid
  | _ => throw .unexpected

def WakeWord.ofToml : Value → Read WakeWord
  | .text s => .ok (.phrase s)
  | .table fields => do
    let canonical ← Fields.required fields "canonical" Value.asText
    let aliases ← Fields.withDefault fields "aliases" (Value.asList Value.asText) []
    let minConfidence ← Fields.optional fields "min_confidence" Value.asReal
    return .entry canonical aliases minConfidence
  | _ => .error .unexpected

def WakeWord.toToml : WakeWord → Value
  | .phrase s => .text s
  | .entry canonical aliases minConfidence =>
    .table ([("canonical", .text canonical), ("aliases", .array (aliases.map .text))] ++
      match minConfidence with
      | some x => [("min_confidence", .real x)]
      | none => [])

end Wake

def Matching.ofToml (v : Value) : Read Matching := do
  let fields ← v.asRecord ["fuzzy", "threshold", "admission_factor", "synonym_bonus", "top_k"]
  let d : Matching := {}
  return {
    fuzzy := ← Fields.withDefault fields "fuzzy" Value.asBool d.fuzzy
    threshold := ← Fields.withDefault fields "threshold" Value.asReal d.threshold
    admissionFactor := ← Fields.withDefault fields "admission_factor" Value.asReal d.admissionFactor
    synonymBonus := ← Fields.withDefault fields "synonym_bonus" Value.asReal d.synonymBonus
    topK := ← Fields.withDefault fields "top_k" Value.asNat d.topK }

def WakeSettings.ofToml (v : Value) : Read WakeSettings := do
  let fields ← v.asRecord ["words", "strategy", "max_candidates"]
  let d : WakeSettings := {}
  return {
    words := ← Fields.withDefault fields "words" (Value.asList Wake.WakeWord.ofToml) d.words
    strategy := ← Fields.withDefault fields "strategy" Wake.Strategy.ofToml d.strategy
    maxCandidates := ← Fields.withDefault fields "max_candidates" Value.asNat d.maxCandidates }

def Settings.ofToml (fields : Fields) : Read Settings := do
  let d : Settings := {}
  let texts := Value.asList Value.asText
  return {
    locale := ← Fields.withDefault fields "locale" Value.asText d.locale
    fallbackLocales := ← Fields.withDefault fields "fallback_locales" texts d.fallbackLocales
    trace := ← Fields.withDefault fields "trace" Value.asBool d.trace
    matching := ← Fields.withDefault fields "matching" Matching.ofToml d.matching
    wake := ← Fields.withDefault fields "wake" WakeSettings.ofToml d.wake }

/-- A count in a document, whose integers are signed and have 64 bits; greater ones cannot be
written. -/
def countToToml? (n : Nat) : Option Value :=
  if n < 0x8000000000000000 then some (.integer n) else none

/-- The document of settings, if their counts can be written. -/
def Settings.toToml? (s : Settings) : Option Fields := do
  let topK ← countToToml? s.matching.topK
  let maxCandidates ← countToToml? s.wake.maxCandidates
  some [
    ("locale", .text s.locale),
    ("fallback_locales", .array (s.fallbackLocales.map .text)),
    ("trace", .bool s.trace),
    ("matching", .table [
      ("fuzzy", .bool s.matching.fuzzy),
      ("threshold", .real s.matching.threshold),
      ("admission_factor", .real s.matching.admissionFactor),
      ("synonym_bonus", .real s.matching.synonymBonus),
      ("top_k", topK)]),
    ("wake", .table [
      ("words", .array (s.wake.words.map Wake.WakeWord.toToml)),
      ("strategy", .text s.wake.strategy.name),
      ("max_candidates", maxCandidates)])]

end Parlance
