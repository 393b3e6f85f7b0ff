import Parlance.Unicode.Case
import Parlance.Unicode.ScriptTable

/-!
Classes of characters as patterns name them.
-/

namespace Parlance.Pattern

open Unicode

abbrev CharSet := Char → Bool

namespace CharSet

def none : CharSet := fun _ => false

def any : CharSet := fun _ => true

def single (c : Char) : CharSet := (· = c)

def range (first last : Char) : CharSet := fun c => first ≤ c && c ≤ last

def union (a b : CharSet) : CharSet := fun c => a c || b c

def inter (a b : CharSet) : CharSet := fun c => a c && b c

def diff (a b : CharSet) : CharSet := fun c => a c && !b c

def symmDiff (a b : CharSet) : CharSet := fun c => a c != b c

def negate (a : CharSet) : CharSet := fun c => !a c

def negateIf (negated : Bool) (a : CharSet) : CharSet := if negated then a.negate else a

/-- The class with the other cases of its letters. -/
def ignoringCase (a : CharSet) : CharSet := fun c => (caseVariants c).any a

/-- The class with the other cases of its ASCII letters. -/
def ignoringAsciiCase (a : CharSet) : CharSet := fun c => a c || a c.toLower || a c.toUpper

/-- A letter in any case. -/
def letter (l : Char) : CharSet := fun c => simpleFold c = simpleFold l

/-- The classes written `[:alpha:]` and so on, of ASCII characters only. -/
def ascii? (name : String) : Option CharSet :=
  let below (p : Char → Bool) : Option CharSet := some fun c => c.toNat < 0x80 && p c
  match name with
  | "alnum" => below Char.isAlphanum
  | "alpha" => below Char.isAlpha
  | "ascii" => below fun _ => true
  | "blank" => below fun c => c = ' ' || c = '\t'
  | "cntrl" => below fun c => c.toNat < 0x20 || c.toNat = 0x7F
  | "digit" => below Char.isDigit
  | "graph" => below fun c => '!' ≤ c && c ≤ '~'
  | "lower" => below Char.isLower
  | "print" => below fun c => ' ' ≤ c && c ≤ '~'
  | "punct" => below fun c => '!' ≤ c && c ≤ '~' && !c.isAlphanum
  | "space" => below fun c => c = ' ' || (0x09 ≤ c.toNat && c.toNat ≤ 0x0D)
  | "upper" => below Char.isUpper
  | "word" => below fun c => c.isAlphanum || c = '_'
  | "xdigit" => below fun c => c.isDigit || ('a' ≤ c && c ≤ 'f') || ('A' ≤ c && c ≤ 'F')
  | _ => Option.none

/-- The digits, blanks and word characters of all scripts, or of ASCII alone. -/
def digit (unicode : Bool) : CharSet := if unicode then isDecimalDigit else Char.isDigit

def space (unicode : Bool) : CharSet :=
  if unicode then isWhiteSpace else fun c => c = ' ' || (0x09 ≤ c.toNat && c.toNat ≤ 0x0D)

def word (unicode : Bool) : CharSet :=
  if unicode then isWordChar else fun c => c.isAlphanum || c = '_'

/-- A property's name without what does not tell names apart. -/
def looseName (name : String) : String :=
  let l := (name.toList.filter fun c => c ≠ ' ' ∧ c ≠ '_' ∧ c ≠ '-').map Char.toLower
  match l with
  | 'i' :: 's' :: rest => String.ofList (if rest = ['c'] then l else rest)
  | _ => String.ofList l

/-- The class of a general category, by its short or long name. -/
def category? (name : String) : Option CharSet :=
  let one (k : Category) : Option CharSet := some fun c => category c == k
  let group (p : Category → Bool) : Option CharSet := some fun c => p (category c)
  match name with
  | "l" | "letter" => group Category.isLetter
  | "lc" | "casedletter" => group fun k => k == .lu || k == .ll || k == .lt
  | "lu" | "uppercaseletter" => one .lu
  | "ll" | "lowercaseletter" => one .ll
  | "lt" | "titlecaseletter" => one .lt
  | "lm" | "modifierletter" => one .lm
  | "lo" | "otherletter" => one .lo
  | "m" | "mark" | "combiningmark" => group Category.isMark
  | "mn" | "nonspacingmark" => one .mn
  | "mc" | "spacingmark" => one .mc
  | "me" | "enclosingmark" => one .me
  | "n" | "number" => group Category.isNumber
  | "nd" | "decimalnumber" | "digit" => one .nd
  | "nl" | "letternumber" => one .nl
  | "no" | "othernumber" => one .no
  | "p" | "punctuation" | "punct" => group Category.isPunctuation
  | "pc" | "connectorpunctuation" => one .pc
  | "pd" | "dashpunctuation" => one .pd
  | "ps" | "openpunctuation" => one .ps
  | "pe" | "closepunctuation" => one .pe
  | "pi" | "initialpunctuation" => one .pi
  | "pf" | "finalpunctuation" => one .pf
  | "po" | "otherpunctuation" => one .po
  | "s" | "symbol" => group Category.isSymbol
  | "sm" | "mathsymbol" => one .sm
  | "sc" | "currencysymbol" => one .sc
  | "sk" | "modifiersymbol" => one .sk
  | "so" | "othersymbol" => one .so
  | "z" | "separator" => group Category.isSeparator
  | "zs" | "spaceseparator" => one .zs
  | "zl" | "lineseparator" => one .zl
  | "zp" | "paragraphseparator" => one .zp
  | "c" | "other" => group Category.isOther
  | "cc" | "control" | "cntrl" => one .cc
  | "cf" | "format" => one .cf
  | "cs" | "surrogate" => one .cs
  | "co" | "privateuse" => one .co
  | "cn" | "unassigned" => one .cn
  | "any" => some any
  | "assigned" => group fun k => k != .cn
  | "ascii" => some fun c => c.toNat < 0x80
  | _ => Option.none

def property? (name : String) : Option CharSet :=
  match name with
  | "alphabetic" | "alpha" => some isAlphabetic
  | "lowercase" | "lower" => some isLowercase
  | "uppercase" | "upper" => some isUppercase
  | "whitespace" | "wspace" | "space" => some isWhiteSpace
  | "cased" => some isCased
  | "caseignorable" | "ci" => some isCaseIgnorable
  | "graphemeextend" | "grext" => some isGraphemeExtend
  | _ => Option.none

def script? (name : String) : Option CharSet :=
  let of (s : Script) : Option CharSet := some s.contains
  match name with
  | "latin" | "latn" => of .latin
  | "greek" | "grek" => of .greek
  | "cyrillic" | "cyrl" => of .cyrillic
  | "armenian" | "armn" => of .armenian
  | "hebrew" | "hebr" => of .hebrew
  | "arabic" | "arab" => of .arabic
  | "devanagari" | "deva" => of .devanagari
  | "thai" => of .thai
  | "georgian" | "geor" => of .georgian
  | "hangul" | "hang" => of .hangul
  | "hiragana" | "hira" => of .hiragana
  | "katakana" | "kana" => of .katakana
  | "han" | "hani" => of .han
  | _ => Option.none

/-- The class that stands between the braces of `\p`: a property, a category or a script by name, or a
category or script after what kind it is. -/
def named? (text : String) : Option CharSet :=
  let kind := text.toList.takeWhile fun c => c ≠ '=' ∧ c ≠ ':' ∧ c ≠ '!'
  let rest := text.toList.drop kind.length
  let value (l : List Char) (negated : Bool) : Option CharSet :=
    let v := looseName (String.ofList l)
    match looseName (String.ofList kind) with
    | "gc" | "generalcategory" => (category? v).map (negateIf negated)
    | "sc" | "script" | "scx" | "scriptextensions" => (script? v).map (negateIf negated)
    | _ => Option.none
  match rest with
  | '!' :: '=' :: l => value l true
  | '=' :: l => value l false
  | ':' :: l => value l false
  | _ =>
    let v := looseName text
    ((property? v).or (category? v)).or (script? v)

end CharSet

end Parlance.Pattern
