import Parlance.Phonetic.Code
import Parlance.Phonetic.Spanish
import Parlance.Locale.Tag
import Parlance.Text.Fold

/-!
Phonetic keys: texts with equal keys sound alike in a locale.
-/

namespace Parlance.Phonetic

/-- A folded word as it is to be encoded in a locale. -/
def respell (locale word : String) : String :=
  if Locale.isSpanish locale then String.ofList (flattenSpanish word.toList) else word

/-- The codes of the words of a text, without those that have no code. -/
def key (text locale : String) : String :=
  let folded := ((Text.words text).map Text.foldToken).filter (· ≠ "")
  Text.unwords ((folded.map fun w => code (respell locale w)).filter (· ≠ ""))

end Parlance.Phonetic
