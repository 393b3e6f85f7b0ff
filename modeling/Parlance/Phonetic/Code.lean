import Parlance.Text.Words

/-!
The double metaphone code of a word, its primary form: up to four letters for the consonants one
hears, with `X` for the sound of *sh* and `0` for that of *th*. A rule reads the word around one
letter, says which sounds it gives and how many letters it used up.
-/

namespace Parlance.Phonetic

/-- A place in a word in upper case. -/
structure Site where
  word : Array Char
  index : Nat

/-- The sounds at a place and the number of letters they take. -/
structure Sound where
  codes : List Char
  letters : Nat

def sound (codes : String) (letters : Nat) : Sound :=
  ⟨codes.toList, letters⟩

def isVowel (c : Char) : Bool :=
  c = 'A' || c = 'E' || c = 'I' || c = 'O' || c = 'U' || c = 'Y'

namespace Site

/-- Whether the word has the piece from the given place on. -/
def hasAt (s : Site) (place : Int) (piece : String) : Bool :=
  0 ≤ place && (s.word.toList.drop place.toNat).take piece.length == piece.toList

/-- Whether one of the pieces stands at a distance from this place. -/
def spells (s : Site) (offset : Int) (pieces : List String) : Bool :=
  pieces.any (s.hasAt (s.index + offset))

def begins (s : Site) (pieces : List String) : Bool :=
  pieces.any (s.hasAt 0)

def isFirst (s : Site) : Bool :=
  s.index = 0

def isLast (s : Site) : Bool :=
  s.index + 1 = s.word.size

/-- The letter at a distance, if the word reaches so far. -/
def letter? (s : Site) (offset : Int) : Option Char :=
  let place := (s.index : Int) + offset
  if 0 ≤ place then s.word[place.toNat]? else none

def vowelAt (s : Site) (offset : Int) : Bool :=
  (s.letter? offset).any isVowel

def isSlavoGermanic (s : Site) : Bool :=
  (List.range s.word.size).any fun i => ["W", "K", "CZ"].any (s.hasAt i)

def isGermanic (s : Site) : Bool :=
  s.begins ["VAN ", "VON ", "SCH"]

/-- One sound for a letter that may be doubled by one of the given letters. -/
def single (s : Site) (codes : String) (doubles : List String) : Sound :=
  sound codes (if s.spells 1 doubles then 2 else 1)

/-- `C` as in *ach*, hard whatever follows. -/
def isHardAch (s : Site) : Bool :=
  s.spells 0 ["CHIA"] ||
    (1 < s.index && !s.vowelAt (-2) && s.spells (-1) ["ACH"] &&
      (!s.spells 2 ["I", "E"] || s.spells (-2) ["BACHER", "MACHER"]))

/-- `CH` of Greek roots at the beginning of a word. -/
def isGreekCh (s : Site) : Bool :=
  s.isFirst && s.spells 1 ["HARAC", "HARIS", "HOR", "HYM", "HIA", "HEM"] && !s.begins ["CHORE"]

/-- `CH` that sounds like *k* by its neighbours. A following `T` or `S` makes it hard only from the
third letter on. -/
def isHardCh (s : Site) : Bool :=
  s.isGermanic ||
    (2 ≤ s.index && (s.spells (-2) ["ORCHES", "ARCHIT", "ORCHID"] || s.spells 2 ["T", "S"])) ||
    ((s.spells (-1) ["A", "O", "U", "E"] || s.isFirst) &&
      (s.spells 2 ["L", "R", "N", "M", "B", "H", "F", "V", "W", " "] ||
        s.index + 2 = s.word.size))

def soundCh (s : Site) : Sound :=
  if !s.isFirst && s.spells 0 ["CHAE"] then sound "K" 2
  else if s.isGreekCh || s.isHardCh then sound "K" 2
  else if !s.isFirst && s.begins ["MC"] then sound "K" 2
  else sound "X" 2

def soundCc (s : Site) : Sound :=
  if s.spells 2 ["I", "E", "H"] && !s.spells 2 ["HU"] then
    if (s.index = 1 && s.spells (-1) ["A"]) || s.spells (-1) ["UCCEE", "UCCES"] then sound "KS" 3
    else sound "X" 3
  else sound "K" 2

def soundC (s : Site) : Sound :=
  if s.isHardAch then sound "K" 2
  else if s.isFirst && s.spells 0 ["CAESAR"] then sound "S" 2
  else if s.spells 0 ["CH"] then s.soundCh
  else if s.spells 0 ["CZ"] && !s.spells (-2) ["WICZ"] then sound "S" 2
  else if s.spells 1 ["CIA"] then sound "X" 3
  else if s.spells 0 ["CC"] && !(s.index = 1 && s.begins ["M"]) then s.soundCc
  else if s.spells 0 ["CK", "CG", "CQ"] then sound "K" 2
  else if s.spells 0 ["CI", "CE", "CY"] then sound "S" 2
  else if s.spells 1 [" C", " Q", " G"] then sound "K" 3
  else if s.spells 1 ["C", "K", "Q"] && !s.spells 1 ["CE", "CI"] then sound "K" 2
  else sound "K" 1

def soundD (s : Site) : Sound :=
  if s.spells 0 ["DG"] then
    if s.spells 2 ["I", "E", "Y"] then sound "J" 3 else sound "TK" 2
  else s.single "T" ["T", "D"]

def soundGh (s : Site) : Sound :=
  if s.isFirst then (if s.spells 2 ["I"] then sound "J" 2 else sound "K" 2)
  else if !s.vowelAt (-1) then sound "K" 2
  else if s.spells (-2) ["B", "H", "D"] || s.spells (-3) ["B", "H", "D"] || s.spells (-4) ["B", "H"] then
    sound "" 2
  else if s.spells (-1) ["U"] && s.spells (-3) ["C", "G", "L", "R", "T"] then sound "F" 2
  else if !s.spells (-1) ["I"] then sound "K" 2
  else sound "" 2

def soundGn (s : Site) : Sound :=
  if s.index = 1 && (s.word[0]?).any isVowel && !s.isSlavoGermanic then sound "KN" 2
  else if !s.spells 2 ["EY"] && !s.isSlavoGermanic then sound "N" 2
  else sound "KN" 2

def soundG (s : Site) : Sound :=
  if s.spells 1 ["H"] then s.soundGh
  else if s.spells 1 ["N"] then s.soundGn
  else if s.spells 1 ["LI"] && !s.isSlavoGermanic then sound "KL" 2
  else if s.isFirst &&
      s.spells 1 ["Y", "ES", "EP", "EB", "EL", "EY", "IB", "IL", "IN", "IE", "EI", "ER"] then
    sound "K" 2
  else if s.spells 1 ["ER", "Y"] && !s.begins ["DANGER", "RANGER", "MANGER"] &&
      !s.spells (-1) ["E", "I"] && !s.spells (-1) ["RGY", "OGY"] then
    sound "K" 2
  else if s.spells 1 ["E", "I", "Y"] || s.spells (-1) ["AGGI", "OGGI"] then
    if s.isGermanic || s.spells 1 ["ET"] then sound "K" 2 else sound "J" 2
  else s.single "K" ["G"]

def soundH (s : Site) : Sound :=
  if (s.isFirst || s.vowelAt (-1)) && s.vowelAt 1 then sound "H" 2 else sound "" 1

def soundJ (s : Site) : Sound :=
  if s.spells 0 ["JOSE"] || s.begins ["SAN "] then
    if (s.isFirst && s.spells 4 [" "]) || s.word.size = 4 || s.begins ["SAN "] then sound "H" 1
    else sound "J" 1
  else
    let heard :=
      s.isFirst || (s.vowelAt (-1) && !s.isSlavoGermanic && s.spells 1 ["A", "O"]) || s.isLast ||
        (!s.spells 1 ["L", "T", "K", "S", "N", "M", "B", "Z"] && !s.spells (-1) ["S", "K", "L"])
    s.single (if heard then "J" else "") ["J"]

def soundM (s : Site) : Sound :=
  if s.spells 1 ["M"] || (s.spells (-1) ["UMB"] && (s.index + 2 = s.word.size || s.spells 2 ["ER"])) then
    sound "M" 2
  else sound "M" 1

def soundP (s : Site) : Sound :=
  if s.spells 1 ["H"] then sound "F" 2 else s.single "P" ["P", "B"]

/-- A final `R` is silent in `-IER`, but not in words of four letters nor in `MEIER`. -/
def soundR (s : Site) : Sound :=
  let silent := s.isLast && 4 ≤ s.index && !s.isSlavoGermanic && s.spells (-2) ["IE"] &&
    !s.spells (-4) ["ME", "MA"]
  s.single (if silent then "" else "R") ["R"]

def soundSc (s : Site) : Sound :=
  if s.spells 2 ["H"] then
    if s.spells 3 ["ER", "EN"] then sound "X" 3
    else if s.spells 3 ["OO", "UY", "ED", "EM"] then sound "SK" 3
    else sound "X" 3
  else if s.spells 2 ["I", "E", "Y"] then sound "S" 3
  else sound "SK" 3

def soundS (s : Site) : Sound :=
  if s.spells (-1) ["ISL", "YSL"] then sound "" 1
  else if s.isFirst && s.spells 0 ["SUGAR"] then sound "X" 1
  else if s.spells 0 ["SH"] then
    if s.spells 1 ["HEIM", "HOEK", "HOLM", "HOLZ"] then sound "S" 2 else sound "X" 2
  else if s.spells 0 ["SIO", "SIA"] then sound "S" 3
  else if (s.isFirst && s.spells 1 ["M", "N", "L", "W"]) || s.spells 1 ["Z"] then s.single "S" ["Z"]
  else if s.spells 0 ["SC"] then s.soundSc
  else s.single (if s.isLast && s.spells (-2) ["AI", "OI"] then "" else "S") ["S", "Z"]

def soundT (s : Site) : Sound :=
  if s.spells 0 ["TION", "TIA", "TCH"] then sound "X" 3
  else if s.spells 0 ["TH", "TTH"] then
    if s.spells 2 ["OM", "AM"] || s.isGermanic then sound "T" 2 else sound "0" 2
  else s.single "T" ["T", "D"]

def soundW (s : Site) : Sound :=
  if s.spells 0 ["WR"] then sound "R" 2
  else if s.isFirst && (s.vowelAt 1 || s.spells 0 ["WH"]) then sound "A" 1
  else if (s.isLast && s.vowelAt (-1)) || s.spells (-1) ["EWSKI", "EWSKY", "OWSKI", "OWSKY"] ||
      s.begins ["SCH"] then
    sound "" 1
  else if s.spells 0 ["WICZ", "WITZ"] then sound "TS" 4
  else sound "" 1

def soundX (s : Site) : Sound :=
  if s.isFirst then sound "S" 1
  else
    let silent := s.isLast && (s.spells (-3) ["IAU", "EAU"] || s.spells (-2) ["AU", "OU"])
    s.single (if silent then "" else "KS") ["C", "X"]

def soundZ (s : Site) : Sound :=
  if s.spells 1 ["H"] then sound "J" 2 else s.single "S" ["Z"]

/-- The sounds of one letter; characters that are no letters of the code are silent. -/
def sounds (s : Site) (c : Char) : Sound :=
  match c with
  | 'A' | 'E' | 'I' | 'O' | 'U' | 'Y' => sound (if s.isFirst then "A" else "") 1
  | 'B' => s.single "P" ["B"]
  | 'C' => s.soundC
  | 'Ç' => sound "S" 1
  | 'D' => s.soundD
  | 'F' => s.single "F" ["F"]
  | 'G' => s.soundG
  | 'H' => s.soundH
  | 'J' => s.soundJ
  | 'K' => s.single "K" ["K"]
  | 'L' => s.single "L" ["L"]
  | 'M' => s.soundM
  | 'N' => s.single "N" ["N"]
  | 'Ñ' => sound "N" 1
  | 'P' => s.soundP
  | 'Q' => s.single "K" ["Q"]
  | 'R' => s.soundR
  | 'S' => s.soundS
  | 'T' => s.soundT
  | 'V' => s.single "F" ["V"]
  | 'W' => s.soundW
  | 'X' => s.soundX
  | 'Z' => s.soundZ
  | _ => sound "" 1

end Site

/-- The sounds from a place on; each takes at least one letter, so `steps` up to the length of the
word suffice. -/
def codesFrom (word : Array Char) : (steps index : Nat) → List Char
  | 0, _ => []
  | steps + 1, index =>
    match word[index]? with
    | none => []
    | some c =>
      let s := Site.sounds ⟨word, index⟩ c
      s.codes ++ codesFrom word steps (index + s.letters)

def codeLength : Nat := 4

/-- The code of a word. The first of two consonants is silent in some beginnings. -/
def code (word : String) : String :=
  let letters := (Unicode.uppercase (Text.trim word).toList).toArray
  let silent := Site.begins ⟨letters, 0⟩ ["GN", "KN", "PN", "WR", "PS"]
  String.ofList ((codesFrom letters letters.size (if silent then 1 else 0)).take codeLength)

end Parlance.Phonetic
