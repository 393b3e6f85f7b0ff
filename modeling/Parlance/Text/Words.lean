import Parlance.Unicode.Case

/-!
Texts as sequences of words: trimming, splitting at blanks with byte offsets, and slices between
byte offsets.
-/

namespace Parlance.Text

open Unicode

/-- Drops the characters of a class at both ends. -/
def trimList (p : Char → Bool) (l : List Char) : List Char :=
  ((l.dropWhile p).reverse.dropWhile p).reverse

def trimWhere (p : Char → Bool) (s : String) : String :=
  String.ofList (trimList p s.toList)

/-- Drops the blanks at both ends. -/
def trim (s : String) : String :=
  trimWhere isWhiteSpace s

def isBlank (s : String) : Bool :=
  s.toList.all isWhiteSpace

def lowercase (s : String) : String :=
  String.ofList (Unicode.lowercase s.toList)

/-- Length in bytes of the UTF-8 form. -/
def byteLength : List Char → Nat
  | [] => 0
  | c :: rest => c.utf8Size + byteLength rest

/-- A word and the byte offset where it starts. -/
structure Word where
  start : Nat
  chars : List Char
  deriving DecidableEq, Repr

namespace Word

def text (w : Word) : String :=
  String.ofList w.chars

/-- The byte offset behind the word. -/
def stop (w : Word) : Nat :=
  w.start + byteLength w.chars

end Word

/-- The words of a text from offset `pos` on, when `current` holds the characters since offset
`start` in reverse order. -/
def wordsFrom (pos start : Nat) (current : List Char) : List Char → List Word
  | [] => if current.isEmpty then [] else [⟨start, current.reverse⟩]
  | c :: rest =>
    let next := pos + c.utf8Size
    if isWhiteSpace c then
      if current.isEmpty then wordsFrom next next [] rest
      else ⟨start, current.reverse⟩ :: wordsFrom next next [] rest
    else wordsFrom next start (c :: current) rest

/-- The stretches between blanks, with their places. -/
def placedWords (s : String) : List Word :=
  wordsFrom 0 0 [] s.toList

/-- The stretches between blanks. -/
def words (s : String) : List String :=
  (placedWords s).map Word.text

def unwords (l : List String) : String :=
  " ".intercalate l

/-- Drops exactly `n` bytes; absent when `n` falls inside a character or behind the end. -/
def dropBytes? : List Char → Nat → Option (List Char)
  | l, 0 => some l
  | [], _ + 1 => none
  | c :: rest, n => if c.utf8Size ≤ n then dropBytes? rest (n - c.utf8Size) else none

/-- Keeps exactly the first `n` bytes; absent when `n` falls inside a character or behind the end. -/
def takeBytes? : List Char → Nat → Option (List Char)
  | _, 0 => some []
  | [], _ + 1 => none
  | c :: rest, n =>
    if c.utf8Size ≤ n then (takeBytes? rest (n - c.utf8Size)).map (c :: ·) else none

/-- The text between two byte offsets, where both fall between characters and in order. -/
def slice? (s : String) (start stop : Nat) : Option String :=
  if start ≤ stop then do
    let rest ← dropBytes? s.toList start
    let l ← takeBytes? rest (stop - start)
    some (String.ofList l)
  else none

/-- Equality up to the case of ASCII letters. -/
def sameIgnoringAsciiCase (a b : String) : Bool :=
  a.toLower == b.toLower

end Parlance.Text
