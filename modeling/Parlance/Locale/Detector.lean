import Parlance.Locale.Tag
import Parlance.OrderedMap

/-!
Choosing the locale of an utterance among candidates: each language has a scorer, and the earliest
candidate with the highest score wins. No language is guessed that is not among the candidates.
-/

namespace Parlance.Locale

/-- How strongly words in lower case look like one base language. -/
structure Scorer where
  language : String
  score : List String → Nat

/-- Scoring by hints: one point for a hint word, two for a word with a special letter, and for a
language without special letters one point for each plain word. -/
structure Hints where
  language : String
  words : List String
  special : List Char

namespace Hints

/-- A word of ASCII characters, at least one of them a letter. -/
def isPlain (word : String) : Bool :=
  word.toList.all (·.toNat < 0x80) && word.toList.any Char.isAlpha

def wordScore (h : Hints) (word : String) : Nat :=
  (if h.words.contains word then 1 else 0) +
  (if word.toList.any h.special.contains then 2 else 0) +
  (if h.special.isEmpty && isPlain word then 1 else 0)

def score (h : Hints) (words : List String) : Nat :=
  words.foldl (fun score w => score + h.wordScore w) 0

def scorer (h : Hints) : Scorer :=
  ⟨h.language.toLower, h.score⟩

def spanish : Hints where
  language := "es"
  words := [
    "el", "la", "los", "las", "de", "del", "que", "y", "en", "por", "favor", "abre", "abrir",
    "cierra", "cerrar", "muestra", "mostrar", "borra", "borrar", "elimina", "eliminar", "busca",
    "buscar", "crea", "crear", "filtra", "activa", "desactiva", "cancela", "cancelar", "anula",
    "anular", "orden", "ordenes", "órdenes", "pedido", "pedidos", "menú", "hola", "oye", "entre",
    "hoy", "mañana"]
  special := ['á', 'é', 'í', 'ó', 'ú', 'ñ', 'ü', '¿', '¡']

def english : Hints where
  language := "en"
  words := [
    "the", "a", "an", "of", "and", "to", "please", "open", "close", "show", "delete", "remove",
    "search", "find", "create", "filter", "enable", "disable", "order", "orders", "menu", "hey",
    "between", "today", "tomorrow"]
  special := []

end Hints

/-- The scorers by base language, in lower case. -/
structure Detector where
  scorers : OrderedMap Scorer

namespace Detector

/-- A detector that always takes the first candidate. -/
def empty : Detector :=
  ⟨.empty⟩

/-- Adds a scorer, in place of the one for the same language. -/
def withScorer (d : Detector) (s : Scorer) : Detector :=
  ⟨d.scorers.insert s.language.toLower s⟩

/-- The detector for Spanish and English. -/
def standard : Detector :=
  (empty.withScorer Hints.spanish.scorer).withScorer Hints.english.scorer

/-- The score of words for a locale, zero without a scorer for its language. -/
def scoreFor (d : Detector) (words : List String) (locale : String) : Nat :=
  match d.scorers.get? (baseLanguage locale).toLower with
  | some s => s.score words
  | none => 0

/-- The earliest candidate with the highest score. -/
def detect (d : Detector) (text : String) (candidates : List String) : Option String :=
  match candidates with
  | [] => none
  | first :: _ =>
    let words := (Text.words text).map Text.lowercase
    let best := candidates.foldl (fun best candidate =>
      let score := d.scoreFor words candidate
      if best.2 < score then (candidate, score) else best) (first, 0)
    some best.1

end Detector

end Parlance.Locale
