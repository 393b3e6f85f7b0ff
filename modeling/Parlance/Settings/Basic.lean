import Parlance.Ranking.Candidate
import Parlance.Text.Quoted
import Parlance.Wake.Gate

/-!
The settings of a resolver, and what can be wrong with them.
-/

namespace Parlance

/-- How wake phrases are listened for. -/
structure WakeSettings extends Wake.Listening where
  /-- Without phrases every utterance passes. -/
  words : List Wake.WakeWord := []

structure Settings where
  /-- The locale that is active at first. -/
  locale : String := "es-CR"
  /-- Locales that are tried after the active one. -/
  fallbackLocales : List String := ["es", "en"]
  /-- Whether resolutions come with a trace. -/
  trace : Bool := false
  matching : Matching := {}
  wake : WakeSettings := {}

inductive SettingsFault where
  | emptyLocale
  | threshold (given : Float)
  | admissionFactor (given : Float)
  | synonymBonus
  | wakeOption (fault : Wake.OptionFault)
  | emptyWakeWord
  | wakeWord (phrase : String) (fault : Wake.OptionFault)

namespace SettingsFault

def message : SettingsFault → String
  | emptyLocale => "locale must not be empty"
  | threshold given =>
    "matching.threshold must be within 0.0..=1.0, got " ++ Decimal.text given
  | admissionFactor given =>
    "matching.admission_factor must be within 0.0..=1.0, got " ++ Decimal.text given
  | synonymBonus => "matching.synonym_bonus must be non-negative"
  | wakeOption fault => fault.message
  | emptyWakeWord => "wake word must not be empty"
  | wakeWord phrase fault => "wake word " ++ Text.quoted phrase ++ ": " ++ fault.message

end SettingsFault

namespace Matching

def fault? (m : Matching) : Option SettingsFault :=
  if !Wake.isShare m.threshold then some (.threshold m.threshold)
  else if !Wake.isShare m.admissionFactor then some (.admissionFactor m.admissionFactor)
  else if m.synonymBonus.isNaN || m.synonymBonus < 0.0 then some .synonymBonus
  else none

end Matching

namespace WakeSettings

/-- What is wrong with the options that a wake phrase of this confidence is compared with. -/
def optionFault? (w : WakeSettings) (locale : String) (confidence : Float) :
    Option Wake.OptionFault :=
  (w.options locale confidence).fault?

def entries (w : WakeSettings) : List Wake.Entry :=
  Wake.entries w.words

def entryFault? (w : WakeSettings) (locale : String) (e : Wake.Entry) : Option SettingsFault :=
  (w.optionFault? locale e.minConfidence).map (.wakeWord e.canonical)

/-- The first fault: of the options as such, of a blank phrase, or of the confidence of a phrase. -/
def fault? (w : WakeSettings) (locale : String) : Option SettingsFault :=
  match w.optionFault? locale Wake.defaultConfidence with
  | some f => some (.wakeOption f)
  | none =>
    if w.words.any fun word => Text.isBlank word.text then some .emptyWakeWord
    else w.entries.findSome? (w.entryFault? locale)

end WakeSettings

def Settings.fault? (s : Settings) : Option SettingsFault :=
  if Text.isBlank s.locale then some .emptyLocale
  else s.matching.fault?.or (s.wake.fault? s.locale)

end Parlance
