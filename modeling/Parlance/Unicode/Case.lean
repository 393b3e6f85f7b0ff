import Parlance.Unicode.CaseTable
import Parlance.Unicode.Property

/-!
Case conversion of whole texts, and the simple folding under which letters of either case are equal.
-/

namespace Parlance.Unicode

/-- One character in lower case, `Σ` as in the middle of a word. -/
def lowercaseChar (c : Char) : List Char :=
  if c.toNat < 0x80 then [c.toLower]
  else if c = 'İ' then ['i', '\u0307']
  else match lowercaseShifts.shift? c.toNat with
    | some n => [Char.ofNat n]
    | none => [c]

def uppercaseChar (c : Char) : List Char :=
  if c.toNat < 0x80 then [c.toUpper]
  else match uppercaseExpansions.at? c.toNat with
    | some l => l.map Char.ofNat
    | none => match uppercaseShifts.shift? c.toNat with
      | some n => [Char.ofNat n]
      | none => [c]

/-- Whether the next character that case conversion does not look through is a cased one. -/
def casedAhead (l : List Char) : Bool :=
  (l.dropWhile isCaseIgnorable).head?.any isCased

/-- Lower case of a text after a stretch of which `casedBefore` says whether its last character, of
those that case conversion does not look through, is cased. A sigma that ends a word becomes `ς`. -/
def lowercaseFrom (casedBefore : Bool) : List Char → List Char
  | [] => []
  | c :: rest =>
    let lowered :=
      if c = 'Σ' then [if casedBefore && !casedAhead rest then 'ς' else 'σ'] else lowercaseChar c
    lowered ++ lowercaseFrom (if isCaseIgnorable c then casedBefore else isCased c) rest

def lowercase (l : List Char) : List Char :=
  lowercaseFrom false l

def uppercase (l : List Char) : List Char :=
  l.flatMap uppercaseChar

/-- The representative of the letters that differ from `c` only in case. -/
def simpleFold (c : Char) : Char :=
  if c.toNat < 0x80 then c.toLower
  else match foldShifts.shift? c.toNat with
    | some n => Char.ofNat n
    | none => c

/-- All characters with the simple folding of `c`. -/
def caseVariants (c : Char) : List Char :=
  let f := simpleFold c
  f :: (foldShifts.preimages f.toNat).map Char.ofNat

end Parlance.Unicode
