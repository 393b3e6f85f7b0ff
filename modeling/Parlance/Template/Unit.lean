import Parlance.Text.Words

/-!
Templates: literal words and slots in braces, as in `borra la orden` followed by a slot `id`.
-/

namespace Parlance.Template

/-- A part of a template between blanks and braces. -/
inductive Part where
  | word (text : String)
  | slot (name : String)
  deriving DecidableEq, Repr

/-- A part and whether blanks separate it from the part before. -/
structure Unit where
  part : Part
  spaceBefore : Bool
  deriving DecidableEq, Repr

inductive SyntaxFault where
  | nested
  | unclosed
  | emptyName
  | unmatched
  | emptyTemplate
  deriving DecidableEq, Repr

/-- Adds a part behind the units read so far, which stand last first; the first one has no blanks
before it. -/
def addPart (units : List Unit) (part : Part) (space : Bool) : List Unit :=
  ⟨part, space && !units.isEmpty⟩ :: units

/-- Adds the word read so far, which stands last character first, unless it is empty. -/
def flush (units : List Unit) (word : List Char) (space : Bool) : List Unit :=
  if word.isEmpty then units else addPart units (.word (String.ofList word.reverse)) space

mutual

/-- Reads on outside of braces. -/
def readText (units : List Unit) (word : List Char) (space : Bool) :
    List Char → Except SyntaxFault (List Unit)
  | [] => .ok (flush units word space).reverse
  | c :: rest =>
    if Unicode.isWhiteSpace c then readText (flush units word space) [] true rest
    else if c = '\x7b' then readName (flush units word space) (space && word.isEmpty) [] rest
    else if c = '\x7d' then .error .unmatched
    else readText units (c :: word) space rest

/-- Reads on inside of braces, the name so far last character first. -/
def readName (units : List Unit) (space : Bool) (name : List Char) :
    List Char → Except SyntaxFault (List Unit)
  | [] => .error .unclosed
  | c :: rest =>
    if c = '\x7d' then
      let name := Text.trim (String.ofList name.reverse)
      if name.isEmpty then .error .emptyName
      else readText (addPart units (.slot name) space) [] false rest
    else if c = '\x7b' then .error .nested
    else readName units space (c :: name) rest

end

def parse (phrase : String) : Except SyntaxFault (List Unit) := do
  match ← readText [] [] false phrase.toList with
  | [] => .error .emptyTemplate
  | units => .ok units

def Part.text : Part → String
  | word text => text
  | slot name => "\x7b" ++ name ++ "\x7d"

def Unit.text (u : Unit) : String :=
  (if u.spaceBefore then " " else "") ++ u.part.text

/-- The units written out, blanks as one space. -/
def render (units : List Unit) : String :=
  String.join (units.map Unit.text)

end Parlance.Template
