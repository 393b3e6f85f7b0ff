import Parlance.Slot.Value
import Parlance.Locale.Tag

/-!
Phrase specs: an action, the phrases that ask for it in each locale, and the slots of the phrases.
-/

namespace Parlance

/-- What a spec asks for. -/
inductive Action where
  | typed (type : String) (target : Option String)
  | scoped (verb : String) (scope : Option String)
  deriving DecidableEq, Repr

/-- Which list of a pack a phrase is from. -/
inductive PhraseKind where
  | canonical
  | synonym
  deriving DecidableEq, Repr

/-- The phrases of one locale. -/
structure PhrasePack where
  canonical : List String := []
  synonyms : List String := []
  /-- Texts to show; no utterance is compared with them. -/
  labels : List String := []
  deriving DecidableEq, Repr

/-- All phrases with their kinds, the canonical ones first. -/
def PhrasePack.phrases (p : PhrasePack) : List (String × PhraseKind) :=
  p.canonical.map (·, .canonical) ++ p.synonyms.map (·, .synonym)

structure Spec where
  name : String
  action : Action
  scope : Option String := none
  /-- The tag of the pack for locales without one. -/
  locale : Option String := none
  phrases : OrderedMap PhrasePack
  slots : List Slot := []
  metadata : Option Json := none
  /-- A condition that payloads have to meet. -/
  condition : Option (Payload → Bool) := none

namespace Spec

def slot? (s : Spec) (name : String) : Option Slot :=
  s.slots.find? (·.name = name)

def packAt? (s : Spec) (tag : String) : Option (String × PhrasePack) :=
  (s.phrases.get? tag).map (tag, ·)

/-- The pack for a locale and its tag: that of the very tag, of the base language, of any tag of the
base language, or that of the spec's own locale. -/
def packFor? (s : Spec) (locale : String) : Option (String × PhrasePack) :=
  let base := Locale.baseLanguage locale
  let sameBase := s.phrases.entries.find? fun e =>
    Text.sameIgnoringAsciiCase (Locale.baseLanguage e.1) base
  (((s.packAt? locale).or (s.packAt? base)).or sameBase).or (s.locale.bind s.packAt?)

/-- Whether a payload has all required slots and meets the condition. -/
def accepts (s : Spec) (p : Payload) : Bool :=
  (s.slots.filter Slot.required).all (fun d => p.contains d.name) &&
    match s.condition with
    | some f => f p
    | none => true

end Spec

/-- Specs together with words for the lexicon, by locale. -/
structure Catalog where
  specs : List Spec := []
  lexicon : OrderedMap (OrderedMap String) := .empty

end Parlance
