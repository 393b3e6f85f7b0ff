import Parlance.Text.Words

/-!
Locale tags such as `es-CR`, their base language, and the list of locales worth trying for an
utterance.
-/

namespace Parlance.Locale

/-- The part of a tag before its first `-` or `_`. -/
def baseLanguage (tag : String) : String :=
  String.ofList (tag.toList.takeWhile fun c => c ≠ '-' ∧ c ≠ '_')

/-- Whether a tag is one of Spanish. -/
def isSpanish (tag : String) : Bool :=
  Text.sameIgnoringAsciiCase (baseLanguage tag) "es"

/-- Adds a trimmed tag unless it is blank or already there, ASCII letters of either case equal. -/
def addTag (tags : List String) (tag : String) : List String :=
  let tag := Text.trim tag
  if tag.isEmpty || tags.any (Text.sameIgnoringAsciiCase · tag) then tags else tags ++ [tag]

/-- The locales to try, best liked first: the one asked for, the active one, its base language and
the fallbacks. -/
def candidates (explicit : Option String) (active : String) (fallbacks : List String) : List String :=
  (explicit.toList ++ active :: baseLanguage active :: fallbacks).foldl addTag []

end Parlance.Locale
