import Parlance.Unicode.CategoryTable
import Parlance.Unicode.PropertyTable

/-!
Properties of characters: the general category and the classes derived from it.
-/

namespace Parlance.Unicode

/-- The categories of the first 128 code points. -/
def asciiCategory (c : Nat) : Category :=
  if c < 0x20 ∨ c = 0x7F then .cc
  else if 0x61 ≤ c ∧ c ≤ 0x7A then .ll
  else if 0x41 ≤ c ∧ c ≤ 0x5A then .lu
  else if 0x30 ≤ c ∧ c ≤ 0x39 then .nd
  else if c = 0x20 then .zs
  else if c = 0x24 then .sc
  else if c = 0x28 ∨ c = 0x5B ∨ c = 0x7B then .ps
  else if c = 0x29 ∨ c = 0x5D ∨ c = 0x7D then .pe
  else if c = 0x2D then .pd
  else if c = 0x5F then .pc
  else if c = 0x2B ∨ c = 0x3C ∨ c = 0x3D ∨ c = 0x3E ∨ c = 0x7C ∨ c = 0x7E then .sm
  else if c = 0x5E ∨ c = 0x60 then .sk
  else .po

def category (c : Char) : Category :=
  if c.toNat < 0x80 then asciiCategory c.toNat
  else match categoryRuns.floor? c.toNat with
    | some (_, k) => k
    | none => .cn

/-- The blanks that separate words. -/
def isWhiteSpace (c : Char) : Bool :=
  let n := c.toNat
  (0x09 ≤ n ∧ n ≤ 0x0D) ∨ n = 0x20 ∨ n = 0x85 ∨ n = 0xA0 ∨ n = 0x1680 ∨ (0x2000 ≤ n ∧ n ≤ 0x200A) ∨
    n = 0x2028 ∨ n = 0x2029 ∨ n = 0x202F ∨ n = 0x205F ∨ n = 0x3000

def isMark (c : Char) : Bool :=
  (category c).isMark

def isAlphabetic (c : Char) : Bool :=
  (category c).isLetter || category c == .nl || otherAlphabetic.contains c.toNat

def isNumeric (c : Char) : Bool :=
  (category c).isNumber

def isAlphanumeric (c : Char) : Bool :=
  isAlphabetic c || isNumeric c

def isDecimalDigit (c : Char) : Bool :=
  category c == .nd

/-- Characters of words: alphabetic ones, marks, decimal digits, connectors and the two joiners. -/
def isWordChar (c : Char) : Bool :=
  isAlphabetic c || isMark c || isDecimalDigit c || category c == .pc ||
    c.toNat = 0x200C || c.toNat = 0x200D

def isLowercase (c : Char) : Bool :=
  category c == .ll || otherLowercase.contains c.toNat

def isUppercase (c : Char) : Bool :=
  category c == .lu || otherUppercase.contains c.toNat

/-- Characters that come in upper, lower or title case. -/
def isCased (c : Char) : Bool :=
  isLowercase c || isUppercase c || category c == .lt

/-- Characters that case conversion looks through when it asks for a neighbour. -/
def isCaseIgnorable (c : Char) : Bool :=
  match category c with
  | .mn | .me | .cf | .lm | .sk => true
  | _ => otherCaseIgnorable.contains c.toNat

/-- Characters that extend the one before them. -/
def isGraphemeExtend (c : Char) : Bool :=
  match category c with
  | .mn | .me => true
  | _ => otherGraphemeExtend.contains c.toNat

/-- Characters with a visible form, and the plain space. -/
def isPrintable (c : Char) : Bool :=
  c = ' ' || !((category c).isOther || (category c).isSeparator)

end Parlance.Unicode
