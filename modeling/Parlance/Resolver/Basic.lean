import Parlance.Lexicon.Seed
import Parlance.Locale.Detector
import Parlance.Settings.Basic
import Parlance.Template.Cache

/-!
Resolvers: settings, a lexicon, the registered specs and the intents compiled from them. A spec is
registered only when each of its phrases compiles and its name is new.
-/

namespace Parlance

structure Resolver where
  settings : Settings
  lexicon : Lexicon
  detector : Locale.Detector := .standard
  /-- In the order of their registration. -/
  specs : List Spec := []
  cache : IntentCache := .empty
  /-- The locale that is preferred when nothing speaks for another. -/
  activeLocale : String

namespace Resolver

/-- A resolver without specs, unless the settings have a fault. -/
def create (s : Settings) (lex : Lexicon) : Except SettingsFault Resolver :=
  match s.fault? with
  | some f => .error f
  | none => .ok { settings := s, lexicon := lex, activeLocale := Text.trim s.locale }

def wakeEntries (r : Resolver) : List Wake.Entry :=
  r.settings.wake.entries

/-- Makes a locale the active one; a blank tag changes nothing. -/
def setActiveLocale (r : Resolver) (locale : String) : Resolver :=
  let locale := Text.trim locale
  if locale.isEmpty then r else { r with activeLocale := locale }

def updateLexicon (r : Resolver) (f : Lexicon → Lexicon) : Resolver :=
  { r with lexicon := f r.lexicon }

def register (r : Resolver) (spec : Spec) : Except CatalogError Resolver := do
  let _ ← Intent.compileAll spec r.lexicon
  if r.specs.any (·.name = spec.name) then throw ⟨spec.name, "", .duplicateSpec⟩
  return { r with specs := r.specs ++ [spec], cache := r.cache.clear }

/-- Registers specs up to the first that fails; the error is that of the one that failed. -/
def registerAll (r : Resolver) : List Spec → Resolver × Option CatalogError
  | [] => (r, none)
  | spec :: rest =>
    match r.register spec with
    | .ok r => r.registerAll rest
    | .error e => (r, some e)

def loadCatalog (r : Resolver) (c : Catalog) : Resolver × Option CatalogError :=
  let addPack (lex : Lexicon) (e : String × OrderedMap String) := lex.registerAll e.1 e.2.entries
  (r.updateLexicon (c.lexicon.entries.foldl addPack ·)).registerAll c.specs

structure Wanted where
  spec : Spec
  phrase : String
  kind : PhraseKind

namespace Wanted

def key (w : Wanted) (locale : String) : IntentKey :=
  ⟨w.spec.name, w.phrase, locale⟩

def compile (w : Wanted) (locale : String) (lex : Lexicon) : Except CatalogError Intent :=
  Intent.compile w.spec w.phrase w.kind locale lex

end Wanted

def wanted (specs : List Spec) (locale : String) : List Wanted :=
  specs.flatMap fun spec =>
    match spec.packFor? locale with
    | some (_, pack) => pack.phrases.map fun (phrase, kind) => ⟨spec, phrase, kind⟩
    | none => []

/-- The intents of phrases: those in the cache, and the others compiled and kept. -/
def fetch (locale : String) (lex : Lexicon) (cache : IntentCache) :
    List Wanted → Except CatalogError (List Intent) × IntentCache
  | [] => (.ok [], cache)
  | w :: rest =>
    match cache.get? (w.key locale) with
    | some i =>
      let (intents, cache) := fetch locale lex cache rest
      (intents.map (i :: ·), cache)
    | none =>
      match w.compile locale lex with
      | .error e => (.error e, cache)
      | .ok i =>
        let (intents, cache) := fetch locale lex (cache.insert (w.key locale) i) rest
        (intents.map (i :: ·), cache)

/-- The intents for a locale under a state of the lexicon, and the cache afterwards. -/
def intentsFor (r : Resolver) (locale : String) (lex : Lexicon) :
    Except CatalogError (List Intent) × IntentCache :=
  fetch locale lex (r.cache.sync lex.revision) (wanted r.specs locale)

end Resolver

end Parlance
