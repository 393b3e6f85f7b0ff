import Parlance.Slot.Value
import Parlance.Decimal.Numeral
import Parlance.Locale.Tag
import Parlance.Text.Fold

/-!
Reading the text of a slot as a value of its kind. What does not fit the kind is no value.
-/

namespace Parlance.Slot

open Calendar

/-- A number, with a comma or a point before its fraction. All but digits, points and signs is passed
over; infinite values do not count. -/
def readNumber (raw : String) : Option Float :=
  let kept := (raw.toList.map fun c => if c = ',' then '.' else c).filter fun c =>
    c.isDigit || c = '.' || c = '-' || c = '+'
  (Decimal.signed? kept).filter Float.isFinite

/-- One of the options, regardless of case and accents, or any word if there are none. -/
def readChoice (options : List String) (raw : String) : Option String :=
  let value := Text.lowercase (Text.trim raw)
  if value.isEmpty then none
  else if options.isEmpty then some value
  else
    (options.find? fun o => Text.fold (Text.trim o) = Text.fold value).map fun o =>
      Text.lowercase (Text.trim o)

/-- Words that stand for something, Spanish ones first in a Spanish locale and English ones first in
any other. -/
def wordsOfLocale {α : Type} (locale : String) (spanish english : List α) : List α :=
  if Locale.isSpanish locale then spanish ++ english else english ++ spanish

def spanishAnswers : List (String × Bool) :=
  (["si", "verdadero", "activado", "activada", "activar", "activo", "encendido", "encender",
    "prendido", "habilitado", "habilitar"].map (·, true)) ++
  (["no", "falso", "desactivado", "desactivada", "desactivar", "inactivo", "apagado", "apagar",
    "deshabilitado", "deshabilitar"].map (·, false))

def englishAnswers : List (String × Bool) :=
  (["yes", "true", "on", "enabled", "enable", "active"].map (·, true)) ++
  (["no", "false", "off", "disabled", "disable", "inactive"].map (·, false))

def readBoolean (locale raw : String) : Option Bool :=
  (wordsOfLocale locale spanishAnswers englishAnswers).lookup (Text.fold (Text.trim raw))

/-- Words for days, by their distance from today. -/
def spanishDays : List (String × Int) :=
  [("hoy", 0), ("manana", 1), ("ayer", -1)]

def englishDays : List (String × Int) :=
  [("today", 0), ("tomorrow", 1), ("yesterday", -1)]

/-- Whether a text of ten bytes has dashes where a date has them. -/
def looksLikeDate (l : List Char) : Bool :=
  let dashAt (n : Nat) : Bool := ((Text.dropBytes? l n).bind List.head?) == some '-'
  Text.byteLength l = 10 && dashAt 4 && dashAt 7

/-- A date in digits, or a word for a day near today. -/
def readDate (context : Context) (raw : String) : Option Date :=
  let word := Text.fold (Text.trim raw)
  if looksLikeDate word.toList then Date.read? false word
  else
    match (wordsOfLocale context.locale spanishDays englishDays).lookup word with
    | some 0 => some context.today
    | some 1 => context.today.next?
    | some _ => context.today.previous?
    | none => none

def isDash (c : Char) : Bool :=
  c = '-' || c = '\u2013' || c = '\u2014'

/-- The two sides of the first dash behind the first character, which may be a sign. -/
def splitAtDash? (l : List Char) : Option (List Char × List Char) :=
  match l with
  | [] => none
  | first :: rest =>
    let left := rest.takeWhile fun c => !isDash c
    match rest.drop left.length with
    | _ :: right => some (first :: left, right)
    | [] => none

/-- Two numbers with a dash between them. -/
def readDashed (l : List Char) : Option (Float × Float) := do
  let (left, right) ← splitAtDash? l
  if left.all Unicode.isWhiteSpace || right.all Unicode.isWhiteSpace then none
  else
    let least ← readNumber (String.ofList left)
    let most ← readNumber (String.ofList right)
    some (least, most)

/-- The words that may open a spoken range and those that stand between its bounds. -/
structure RangeWords where
  leads : List String
  connectors : List String

def spanishRange : RangeWords :=
  ⟨["entre", "de", "desde"], ["y", "a", "hasta"]⟩

def englishRange : RangeWords :=
  ⟨["between", "from"], ["and", "to"]⟩

/-- The words of the locale's language; those of both for any other language. -/
def rangeWords (locale : String) : RangeWords :=
  match (Locale.baseLanguage locale).toLower with
  | "es" => spanishRange
  | "en" => englishRange
  | _ => ⟨englishRange.leads ++ spanishRange.leads, englishRange.connectors ++ spanishRange.connectors⟩

/-- Two numbers with a connector between them and perhaps a lead before them. -/
def readSpoken (ws : RangeWords) (words : List String) : Option (Float × Float) :=
  let words := match words with
    | first :: rest => if ws.leads.contains first then rest else words
    | [] => []
  match words with
  | [least, connector, most] =>
    if ws.connectors.contains connector then do
      let least ← readNumber least
      let most ← readNumber most
      some (least, most)
    else none
  | _ => none

def readRange (locale raw : String) : Option (Float × Float) :=
  let text := Text.fold (Text.trim raw)
  (readDashed text.toList).or (readSpoken (rangeWords locale) (Text.words text))

/-- The value of a slot's text: by the slot's own reader if it has one, else by its kind. -/
def read (slot : Slot) (context : Context) (raw : String) : Option Value :=
  match slot.reader with
  | some f => f raw context
  | none =>
    match slot.kind with
    | .text | .custom => some (.text (Text.trim raw))
    | .number => (readNumber raw).map .number
    | .choice => (readChoice slot.options raw).map .text
    | .boolean => (readBoolean context.locale raw).map .bool
    | .date => (readDate context raw).map .date
    | .range => (readRange context.locale raw).map fun (least, most) => .range least most

end Parlance.Slot
