import Parlance.Text.Words
import Parlance.Unicode.Decomposition

/-!
Folding: the form of a text without accents and in lower case, in which words are compared.
-/

namespace Parlance.Text

open Unicode

/-- The characters of a text without their marks. -/
def stripMarks (l : List Char) : List Char :=
  composeHangul ((l.flatMap decomposeChar).filter fun c => !isMark c)

/-- Drops all marks and turns to lower case: `Órdenes` becomes `ordenes`. -/
def fold (s : String) : String :=
  String.ofList (Unicode.lowercase (stripMarks s.toList))

/-- Folds a word without what is neither letter nor digit at its ends: `Nora,` becomes `nora`. -/
def foldToken (s : String) : String :=
  fold (trimWhere (fun c => !isAlphanumeric c) s)

end Parlance.Text
