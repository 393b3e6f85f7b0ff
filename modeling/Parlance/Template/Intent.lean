import Parlance.Catalog.Spec
import Parlance.Pattern.Parser
import Parlance.Template.Error
import Parlance.Text.Normalized

/-!
Intents: phrases of a spec compiled for a locale. An intent has two patterns for a whole utterance,
one for the utterance as given and one for its normalized form, in which articles may be left out.
-/

namespace Parlance

open Pattern Template

/-- Words that may be left out of a command. -/
def optionalArticles : List String :=
  ["el", "la", "los", "las", "un", "una", "the", "an"]

namespace Template

def blank : Node := .one Unicode.isWhiteSpace

/-- Blanks that may be missing. -/
def blanks : Node := .star true blank

/-- Blanks that have to be there. -/
def gap : Node := .plus true blank

def gapIf (space : Bool) : Node := if space then gap else .empty

/-- The very characters of a text, in any case. -/
def literal (text : String) : Node :=
  .all (text.toList.map fun c => .one (CharSet.letter c))

def digits : Node := .plus true (.one Unicode.isDecimalDigit)

/-- Characters of numbers and words in a range. -/
def isRangeChar (c : Char) : Bool :=
  Unicode.isWordChar c || ".,-\u2013\u2014".toList.contains c

def kindPattern : Slot.Kind → Node
  | .number =>
    .seq (.opt true (.one (· = '-')))
      (.seq digits (.opt true (.seq (.one fun c => c = '.' || c = ',') digits)))
  | .boolean => .plus true (.one Unicode.isWordChar)
  | .choice | .date => .plus true (.one fun c => Unicode.isWordChar c || c = '-')
  | .range =>
    .seq (.plus true (.one isRangeChar))
      (.star true (.seq gap (.plus true (.one isRangeChar))))
  | .text | .custom => .plus true (.one (· ≠ '\n'))

end Template

/-- A slot of a template with its pattern. -/
structure SlotPattern where
  slot : Slot
  node : Node

namespace SlotPattern

def name (p : SlotPattern) : String :=
  p.slot.name

/-- Whether a text as a whole fits the slot. -/
def accepts (p : SlotPattern) (text : String) : Bool :=
  p.node.fits text

end SlotPattern

abbrev Captures := OrderedMap String

structure Intent where
  id : String
  spec : Spec
  /-- The template as written. -/
  phrase : String
  kind : PhraseKind
  locale : String
  /-- The normalized words of the template, without slots and words of punctuation. -/
  literals : List String
  slots : List SlotPattern
  pieces : List Piece
  normalizedPieces : List Piece

namespace Template

/-- A piece of a pattern before blanks are put between. -/
structure Element where
  piece : Piece
  spaceBefore : Bool
  optional : Bool

/-- The pattern of a piece, whether it is kept or not. -/
def Element.node (e : Element) : Node :=
  match e.piece with
  | .fixed a | .slot a => a

/-- Puts blanks between elements. An element that may be left out takes along the blanks before it,
or, when nothing but such elements came before (`leading`), those behind it. -/
def layout (leading : Bool) : List Element → List Piece
  | [] => [.fixed blanks]
  | e :: rest =>
    if e.optional then
      if leading then
        let space := (rest.head?.map Element.spaceBefore).getD false
        .fixed (.opt true (.seq e.node (gapIf space))) :: layout true rest
      else .fixed (.opt true (.seq (gapIf e.spaceBefore) e.node)) :: layout false rest
    else if leading then e.piece :: layout false rest
    else .fixed (gapIf e.spaceBefore) :: e.piece :: layout false rest

/-- The pattern of elements, with blanks around. -/
def pieces (elements : List Element) : List Piece :=
  .fixed blanks :: layout true elements

/-- The state of a compilation: what the units so far have become. -/
structure Draft where
  elements : List Element := []
  normalized : List Element := []
  literals : List String := []
  slots : List SlotPattern := []
  /-- The names of all groups in the patterns. -/
  groups : List String := []
  /-- Blanks stood before a word that was nothing but punctuation. -/
  carriedSpace : Bool := false

/-- The pattern of a slot as read, with its groups' names. -/
def slotPattern (slot : Slot) : Except CatalogFault (Node × List String) :=
  match slot.pattern with
  | none => .ok (kindPattern slot.kind, [])
  | some text =>
    match Pattern.parse { ignoreCase := true } text with
    | .error _ => .error (.invalidPattern slot.name)
    | .ok p => if p.openComment then .error .doesNotCompile else .ok (p.node, p.names)

def Draft.addWord (lex : Lexicon) (locale : String) (d : Draft) (word : String) (space : Bool) :
    Draft :=
  let elements := d.elements ++ [⟨.fixed (literal word), space, false⟩]
  match Text.normalizeWord lex locale word with
  | none => { d with elements, carriedSpace := d.carriedSpace || space }
  | some w =>
    { d with
      elements
      normalized := d.normalized ++
        [⟨.fixed (literal w.text), space || d.carriedSpace, optionalArticles.contains w.text⟩]
      literals := d.literals ++ [w.text]
      carriedSpace := false }

def Draft.addSlot (spec : Spec) (d : Draft) (name : String) (space : Bool) :
    Except CatalogFault Draft := do
  let slot ← match spec.slot? name with
    | some slot => .ok slot
    | none => .error (.undeclaredSlot name)
  if d.slots.any (·.name = name) then throw (.duplicateSlot name)
  let (node, groups) ← slotPattern slot
  return { d with
    elements := d.elements ++ [⟨.slot node, space, false⟩]
    normalized := d.normalized ++ [⟨.slot node, space || d.carriedSpace, false⟩]
    slots := d.slots ++ [⟨slot, node⟩]
    groups := d.groups ++ ("slot" ++ toString d.slots.length) :: groups
    carriedSpace := false }

def Draft.add (spec : Spec) (lex : Lexicon) (locale : String) (d : Draft) (u : Unit) :
    Except CatalogFault Draft :=
  match u.part with
  | .word text => .ok (d.addWord lex locale text u.spaceBefore)
  | .slot name => d.addSlot spec name u.spaceBefore

/-- Articles stay when there is nothing else. -/
def keepLoneArticles (elements : List Element) : List Element :=
  if elements.all Element.optional then elements.map fun e => { e with optional := false } else elements

end Template

namespace Intent

/-- Compiles a phrase, or tells what is wrong with it. -/
def compileFault (spec : Spec) (phrase : String) (kind : PhraseKind) (locale : String)
    (lex : Lexicon) : Except CatalogFault Intent := do
  let units ← match Template.parse phrase with
    | .ok units => .ok units
    | .error fault => .error (.malformed fault)
  let d ← units.foldlM (Draft.add spec lex locale) {}
  if d.groups.eraseDups.length ≠ d.groups.length then throw .doesNotCompile
  return {
    id := spec.name ++ ":" ++ phrase
    spec, phrase, kind, locale
    literals := d.literals
    slots := d.slots
    pieces := Template.pieces d.elements
    normalizedPieces := Template.pieces (keepLoneArticles d.normalized) }

def compile (spec : Spec) (phrase : String) (kind : PhraseKind) (locale : String) (lex : Lexicon) :
    Except CatalogError Intent :=
  (compileFault spec phrase kind locale lex).mapError fun fault => ⟨spec.name, phrase, fault⟩

/-- Compiles every phrase of every pack, each for the locale of its pack. -/
def compileAll (spec : Spec) (lex : Lexicon) : Except CatalogError (List Intent) :=
  (spec.phrases.entries.flatMap fun e => e.2.phrases.map fun p => (p, e.1)).mapM
    fun (p, locale) => compile spec p.1 p.2 locale lex

def normalizedPhrase (i : Intent) : String :=
  Text.unwords i.literals

def hasSlots (i : Intent) : Bool :=
  !i.slots.isEmpty

/-- The texts of the slots when each is given by a stretch of characters. -/
def capture (i : Intent) (stretches : List (Nat × Nat)) (text : Nat × Nat → String) : Captures :=
  .ofList ((i.slots.zip stretches).map fun (p, s) => (p.name, Text.trim (text s)))

def stretch (t : List Char) (s : Nat × Nat) : List Char :=
  (t.drop s.1).take (s.2 - s.1)

def byteSpan (t : List Char) (s : Nat × Nat) : Text.Span :=
  ⟨Text.byteLength (t.take s.1), Text.byteLength (t.take s.2)⟩

/-- Matches an utterance as a whole: its normalized form, and failing that the utterance as given.
Slot texts are told in the spelling of the utterance where they cover whole words. -/
def matchText (i : Intent) (u : Text.Normalized) : Option Captures :=
  let t := u.text.toList
  match Piece.search t.toArray i.normalizedPieces 0 with
  | some stretches =>
    some (i.capture stretches fun s =>
      (u.originalSpan (byteSpan t s)).getD (String.ofList (stretch t s)))
  | none =>
    let original := Text.trim u.original
    if original = u.text then none
    else
      let t := original.toList
      (Piece.search t.toArray i.pieces 0).map fun stretches =>
        i.capture stretches fun s => String.ofList (stretch t s)

end Intent

end Parlance
