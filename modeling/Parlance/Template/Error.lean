import Parlance.Template.Unit

/-!
What can be wrong with a spec, and the words in which it is told.
-/

namespace Parlance

namespace Template

def SyntaxFault.message : SyntaxFault → String
  | nested => "nested `\x7b` in slot"
  | unclosed => "unclosed `\x7b`"
  | emptyName => "empty slot name"
  | unmatched => "unmatched `\x7d`"
  | emptyTemplate => "empty template"

end Template

/-- What is wrong with a phrase of a spec, or with the spec as a whole. -/
inductive CatalogFault where
  | malformed (fault : Template.SyntaxFault)
  | undeclaredSlot (name : String)
  | duplicateSlot (name : String)
  | invalidPattern (name : String)
  /-- The patterns of the slots are right one by one but not inside the template. -/
  | doesNotCompile
  | duplicateSpec
  deriving DecidableEq, Repr

def CatalogFault.message : CatalogFault → String
  | malformed fault => fault.message
  | undeclaredSlot name => "undeclared slot `" ++ name ++ "`"
  | duplicateSlot name => "duplicate slot `" ++ name ++ "`"
  | invalidPattern name => "invalid pattern for slot `" ++ name ++ "`"
  | doesNotCompile => "pattern does not compile"
  | duplicateSpec => "duplicate spec name"

/-- A fault and where it was found; a fault of a spec as a whole names no phrase. -/
structure CatalogError where
  spec : String
  phrase : String
  fault : CatalogFault
  deriving DecidableEq, Repr

end Parlance
