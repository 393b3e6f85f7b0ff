import Parlance.Lexicon.Basic

/-!
Changes of a lexicon as values, so that one can speak of all that was done to it.
-/

namespace Parlance.Lexicon

/-- A change of the words. -/
inductive Edit where
  | register (locale term canonical : String)
  | registerWeighted (locale term canonical : String) (weight : Float)
  | registerAll (locale : String) (terms : List (String × String))
  | remove (locale term : String)

def edit (lex : Lexicon) : Edit → Lexicon
  | .register locale term canonical => lex.register locale term canonical
  | .registerWeighted locale term canonical weight =>
    lex.registerWeighted locale term canonical weight
  | .registerAll locale terms => lex.registerAll locale terms
  | .remove locale term => lex.remove locale term

theorem revision_edit (lex : Lexicon) (e : Edit) : (lex.edit e).revision = lex.revision + 1 := by
  cases e <;> rfl

end Parlance.Lexicon
