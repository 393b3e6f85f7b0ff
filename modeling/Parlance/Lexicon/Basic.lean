import Parlance.OrderedMap
import Parlance.Locale.Tag

/-!
The lexicon maps words of each locale to the terms that stand for them. A look-up under a full tag
falls back to the base language. Each change of the lexicon, also one without effect, makes a new
revision.
-/

namespace Parlance

/-- The term that stands for a word, and a weight. -/
structure Sense where
  canonical : String
  weight : Float := 1.0

structure Lexicon where
  packs : OrderedMap (OrderedMap Sense)
  revision : Nat

namespace Lexicon

def empty : Lexicon :=
  ⟨.empty, 0⟩

instance : EmptyCollection Lexicon := ⟨empty⟩

instance : Inhabited Lexicon := ⟨empty⟩

/-- The form under which a word is filed: trimmed and in lower case. -/
def key (term : String) : String :=
  Text.lowercase (Text.trim term)

def pack (lex : Lexicon) (locale : String) : OrderedMap Sense :=
  (lex.packs.get? locale).getD .empty

/-- What a word stands for in a locale, or failing that in its base language. -/
def sense? (lex : Lexicon) (locale term : String) : Option Sense :=
  let k := key term
  if k.isEmpty then none
  else
    match (lex.pack locale).get? k with
    | some s => some s
    | none =>
      let base := Locale.baseLanguage locale
      if base = locale then none else (lex.pack base).get? k

def canonical? (lex : Lexicon) (locale term : String) : Option String :=
  (lex.sense? locale term).map Sense.canonical

/-- Files one word; a blank one is passed over. -/
def addTo (p : OrderedMap Sense) (term canonical : String) (weight : Float) : OrderedMap Sense :=
  let k := key term
  if k.isEmpty then p else p.insert k ⟨Text.trim canonical, weight⟩

def setPack (lex : Lexicon) (locale : String) (p : OrderedMap Sense) : Lexicon :=
  ⟨lex.packs.insert locale p, lex.revision + 1⟩

def registerWeighted (lex : Lexicon) (locale term canonical : String) (weight : Float) : Lexicon :=
  lex.setPack locale (addTo (lex.pack locale) term canonical weight)

def register (lex : Lexicon) (locale term canonical : String) : Lexicon :=
  lex.registerWeighted locale term canonical 1.0

/-- Files many words in one revision; of two under one key the later counts. -/
def registerAll (lex : Lexicon) (locale : String) (terms : List (String × String)) : Lexicon :=
  lex.setPack locale (terms.foldl (fun p t => addTo p t.1 t.2 1.0) (lex.pack locale))

/-- Whether a word is filed under exactly this tag. -/
def holds (lex : Lexicon) (locale term : String) : Bool :=
  (lex.pack locale).contains (key term)

def remove (lex : Lexicon) (locale term : String) : Lexicon :=
  lex.setPack locale ((lex.pack locale).erase (key term))

/-- The words filed under exactly this tag and their terms, in order. -/
def terms (lex : Lexicon) (locale : String) : List (String × String) :=
  (lex.pack locale).entries.map fun e => (e.1, e.2.canonical)

def locales (lex : Lexicon) : List String :=
  (lex.packs.entries.filter fun e => !e.2.isEmpty).map (·.1)

end Lexicon

end Parlance
