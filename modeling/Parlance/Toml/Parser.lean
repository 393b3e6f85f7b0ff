import Parlance.Calendar.Date
import Parlance.Decimal.Numeral
import Parlance.Toml.Tree

/-!
Reading TOML documents.
-/

namespace Parlance.Toml

abbrev Reader := StateT (List Char) (Except Fault)

namespace Reader

def fail {α : Type} : Reader α := fun _ => .error .malformed

def peek? : Reader (Option Char) := do
  return (← get).head?

def drop (n : Nat) : Reader Unit :=
  modify (·.drop n)

/-- Takes a given beginning, if the text has it. -/
def takeIf (beginning : String) : Reader Bool := do
  if beginning.toList.isPrefixOf (← get) then
    drop beginning.length
    return true
  else return false

def expect (beginning : String) : Reader Unit := do
  if ← takeIf beginning then return () else fail

def takeWhile (p : Char → Bool) : Reader (List Char) := do
  let taken := (← get).takeWhile p
  drop taken.length
  return taken

/-- Takes what a reader on lists of characters takes, if it succeeds. -/
def ofOption {α : Type} (f : List Char → Option (α × List Char)) : Reader α := do
  match f (← get) with
  | some (x, rest) =>
    set rest
    return x
  | none => fail

end Reader

open Reader

def isBlank (c : Char) : Bool := c = ' ' || c = '\t'

/-- Characters that texts and comments may hold: no control characters but the tabulator. -/
def isPlain (c : Char) : Bool := c = '\t' || (0x20 ≤ c.toNat && c.toNat ≠ 0x7F)

def skipBlanks : Reader Unit := do
  let _ ← takeWhile isBlank

/-- The end of a line, if the text goes on with one. -/
def takeNewline : Reader Bool := do
  if ← takeIf "\n" then return true else takeIf "\r\n"

def skipComment : Reader Unit := do
  if ← takeIf "#" then
    let _ ← takeWhile isPlain

/-- Blanks and a comment up to the end of the line or the text. -/
def finishLine : Reader Unit := do
  skipBlanks
  skipComment
  if (← get).isEmpty then return ()
  if ← takeNewline then return () else fail

def skipLines : (steps : Nat) → Reader Unit
  | 0 => return ()
  | steps + 1 => do
    skipBlanks
    skipComment
    if ← takeNewline then skipLines steps else return ()

/-! Texts. -/

def isHexDigit (c : Char) : Bool :=
  c.isDigit || ('a' ≤ c && c ≤ 'f') || ('A' ≤ c && c ≤ 'F')

def hexDigitValue (c : Char) : Nat :=
  if c.isDigit then c.toNat - 48 else c.toLower.toNat - 87

/-- The character of a fixed number of hexadecimal digits. -/
def readCodePoint (digits : Nat) : Reader Char := do
  let ds := (← get).take digits
  if ds.length < digits || !ds.all isHexDigit then fail
  drop digits
  let n := ds.foldl (fun n c => n * 16 + hexDigitValue c) 0
  if n.isValidChar then return Char.ofNat n else fail

def readEscape : Reader Char := do
  match ← peek? with
  | none => fail
  | some c =>
    drop 1
    match c with
    | 'b' => return '\x08'
    | 't' => return '\t'
    | 'n' => return '\n'
    | 'f' => return '\x0c'
    | 'r' => return '\r'
    | '"' => return '"'
    | '\\' => return '\\'
    | 'u' => readCodePoint 4
    | 'U' => readCodePoint 8
    | _ => fail

/-- A text on one line up to the closing quote, with or without escapes. -/
def readLineText (quote : Char) (escapes : Bool) : (steps : Nat) → List Char → Reader String
  | 0, _ => fail
  | steps + 1, taken => do
    match ← peek? with
    | none => fail
    | some c =>
      drop 1
      if c = quote then return String.ofList taken.reverse
      else if escapes && c = '\\' then
        let e ← readEscape
        readLineText quote escapes steps (e :: taken)
      else if isPlain c then readLineText quote escapes steps (c :: taken)
      else fail

/-- Blanks and ends of lines behind a backslash at the end of a line. -/
def skipLineEnding : (steps : Nat) → Reader Unit
  | 0 => return ()
  | steps + 1 => do
    skipBlanks
    if ← takeNewline then skipLineEnding steps else return ()

/-- A text over several lines up to three closing quotes, of which up to two more may stand before
them as part of the text. -/
def readLinesText (quote : Char) (escapes : Bool) : (steps : Nat) → List Char → Reader String
  | 0, _ => fail
  | steps + 1, taken => do
    let quotes := ((← get).takeWhile (· = quote)).length
    if 3 ≤ quotes then
      if 5 < quotes then fail
      drop quotes
      return String.ofList (List.replicate (quotes - 3) quote ++ taken).reverse
    else if ← takeNewline then readLinesText quote escapes steps ('\n' :: taken)
    else
      match ← peek? with
      | none => fail
      | some c =>
        drop 1
        if escapes && c = '\\' then
          let rest := (← get).dropWhile isBlank
          match rest with
          | '\n' :: _ | '\r' :: '\n' :: _ =>
            skipLineEnding rest.length
            readLinesText quote escapes steps taken
          | _ =>
            let e ← readEscape
            readLinesText quote escapes steps (e :: taken)
        else if isPlain c then readLinesText quote escapes steps (c :: taken)
        else fail

/-- A text in quotes of either sort; only double quotes know escapes. -/
def readText (quote : Char) : Reader String := do
  let escapes : Bool := quote = '"'
  if ← takeIf (String.ofList [quote, quote, quote]) then
    let _ ← takeNewline
    readLinesText quote escapes ((← get).length + 1) []
  else
    drop 1
    readLineText quote escapes ((← get).length + 1) []

/-! Keys. -/

def isKeyChar (c : Char) : Bool :=
  c.isAlphanum || c = '_' || c = '-'

def readSimpleKey : Reader String := do
  match ← peek? with
  | some '"' =>
    drop 1
    readLineText '"' true ((← get).length + 1) []
  | some '\'' =>
    drop 1
    readLineText '\'' false ((← get).length + 1) []
  | _ =>
    match ← takeWhile isKeyChar with
    | [] => fail
    | k => return String.ofList k

def readKey : (steps : Nat) → Reader (List String)
  | 0 => fail
  | steps + 1 => do
    skipBlanks
    let k ← readSimpleKey
    skipBlanks
    if ← takeIf "." then return k :: (← readKey steps) else return [k]

/-! Numbers, dates and times. -/

/-- Digits with single underscores between them. -/
def groupedDigits? (isDigit : Char → Bool) (l : List Char) : Option (List Char × List Char) :=
  let taken := l.takeWhile fun c => isDigit c || c = '_'
  let groups := taken.splitOn '_'
  if groups.all (!·.isEmpty) then some (taken.filter (· ≠ '_'), l.drop taken.length) else none

def isDigitBelow (base : Nat) (c : Char) : Bool :=
  isHexDigit c && hexDigitValue c < base

def checkRange (n : Int) : Option Value :=
  if -0x8000000000000000 ≤ n ∧ n < 0x8000000000000000 then some (.integer n) else none

def basedInteger? (base : Nat) (l : List Char) : Option (Value × List Char) := do
  let (ds, rest) ← groupedDigits? (isDigitBelow base) l
  let v ← checkRange (ds.foldl (fun n c => n * base + hexDigitValue c) 0 : Nat)
  some (v, rest)

def splitSign : List Char → Bool × List Char
  | '-' :: l => (true, l)
  | '+' :: l => (false, l)
  | l => (false, l)

def exponent? : List Char → Option (Option Int × List Char)
  | c :: l =>
    if c = 'e' || c = 'E' then
      let (negative, l) := splitSign l
      (groupedDigits? Char.isDigit l).map fun (ds, rest) =>
        let n : Int := Decimal.digitsValue ds
        (some (if negative then -n else n), rest)
    else some (none, c :: l)
  | [] => some (none, [])

def fraction? : List Char → Option (Option (List Char) × List Char)
  | '.' :: l => (groupedDigits? Char.isDigit l).map fun (ds, rest) => (some ds, rest)
  | l => some (none, l)

/-- An integer or a real; a number too large for a real is none. -/
def number? (l : List Char) : Option (Value × List Char) := do
  let (negative, l) := splitSign l
  match l with
  | 'i' :: 'n' :: 'f' :: rest => some (.real (if negative then -(1.0 / 0.0) else 1.0 / 0.0), rest)
  | 'n' :: 'a' :: 'n' :: rest => some (.real (0.0 / 0.0), rest)
  | _ =>
    let (whole, l) ← groupedDigits? Char.isDigit l
    if 1 < whole.length && whole.head? == some '0' then none
    let (fraction, l) ← fraction? l
    let (exponent, l) ← exponent? l
    match fraction, exponent with
    | none, none =>
      let n : Int := Decimal.digitsValue whole
      let v ← checkRange (if negative then -n else n)
      some (v, l)
    | _, _ =>
      let fraction := fraction.getD []
      let x := Decimal.scaled (Decimal.digitsValue (whole ++ fraction))
        (exponent.getD 0 - fraction.length)
      if negative then some (.real (-x), l)
      else if x.isInf then none
      else some (.real x, l)

def fixedDigits? (width : Nat) (l : List Char) : Option (Nat × List Char) :=
  let ds := l.take width
  if ds.length = width && ds.all Char.isDigit then some (Decimal.digitsValue ds, l.drop width)
  else none

def expectChar? (c : Char) : List Char → Option (List Char)
  | d :: l => if c = d then some l else none
  | [] => none

def date? (l : List Char) : Option (String × List Char) := do
  let (year, l) ← fixedDigits? 4 l
  let l ← expectChar? '-' l
  let (month, l) ← fixedDigits? 2 l
  let l ← expectChar? '-' l
  let (day, l) ← fixedDigits? 2 l
  let d ← Calendar.Date.of? year month day
  some (d.text, l)

/-- The fraction of a second, to the nanosecond and without zeros at its end. -/
def secondFraction (l : List Char) : String :=
  let ds := ((l.take 9).reverse.dropWhile (· = '0')).reverse
  if ds.isEmpty then "" else String.ofList ('.' :: ds)

def time? (l : List Char) : Option (String × List Char) := do
  let (hour, l) ← fixedDigits? 2 l
  let l ← expectChar? ':' l
  let (minute, l) ← fixedDigits? 2 l
  let l ← expectChar? ':' l
  let (second, l) ← fixedDigits? 2 l
  if 23 < hour || 59 < minute || 60 < second then none
  let (fraction, l) ← match l with
    | '.' :: l =>
      let ds := l.takeWhile Char.isDigit
      if ds.isEmpty then none else some (secondFraction ds, l.drop ds.length)
    | l => some ("", l)
  let two := Calendar.Date.padded 2
  some (two hour ++ ":" ++ two minute ++ ":" ++ two second ++ fraction, l)

/-- The distance to universal time, as it is written out; nothing for local times. -/
def offset? : List Char → Option (String × List Char)
  | 'Z' :: l | 'z' :: l => some ("Z", l)
  | c :: l =>
    if c = '+' || c = '-' then do
      let (hours, l) ← fixedDigits? 2 l
      let l ← expectChar? ':' l
      let (minutes, l) ← fixedDigits? 2 l
      if 23 < hours || 59 < minutes then none
      let sign := if c = '-' && 0 < hours + minutes then "-" else "+"
      some (sign ++ Calendar.Date.padded 2 hours ++ ":" ++ Calendar.Date.padded 2 minutes, l)
    else some ("", c :: l)
  | [] => some ("", [])

def dateTime? (l : List Char) : Option (String × List Char) :=
  match date? l with
  | none => time? l
  | some (d, l) =>
    let withTime (t : List Char) : Option (String × List Char) := do
      let (time, l) ← time? t
      let (offset, l) ← offset? l
      some (d ++ "T" ++ time ++ offset, l)
    match l with
    | 'T' :: t | 't' :: t => withTime t
    | ' ' :: t => if (time? t).isSome then withTime t else some (d, l)
    | _ => some (d, l)

def startsDateTime (l : List Char) : Bool :=
  let ds := (l.takeWhile Char.isDigit).length
  match l[ds]? with
  | some '-' => ds = 4
  | some ':' => ds = 2
  | _ => false

/-! Values. -/

mutual

def readValue : (steps : Nat) → Reader Value
  | 0 => fail
  | steps + 1 => do
    match ← peek? with
    | none => fail
    | some '"' => return .text (← readText '"')
    | some '\'' => return .text (← readText '\'')
    | some '[' =>
      drop 1
      readItems steps []
    | some '\x7b' =>
      drop 1
      skipBlanks
      if ← takeIf "\x7d" then return .table [] else readInline steps []
    | some 't' =>
      expect "true"
      return .bool true
    | some 'f' =>
      expect "false"
      return .bool false
    | some _ =>
      let l ← get
      if startsDateTime l then return .dateTime (← ofOption dateTime?)
      if ← takeIf "0x" then ofOption (basedInteger? 16)
      else if ← takeIf "0o" then ofOption (basedInteger? 8)
      else if ← takeIf "0b" then ofOption (basedInteger? 2)
      else ofOption number?

/-- The items of an array up to its closing bracket, after those read, the last first. -/
def readItems : (steps : Nat) → List Value → Reader Value
  | 0, _ => fail
  | steps + 1, items => do
    skipLines ((← get).length + 1)
    if ← takeIf "]" then return .array items.reverse
    let v ← readValue steps
    skipLines ((← get).length + 1)
    if ← takeIf "," then readItems steps (v :: items)
    else
      expect "]"
      return .array (v :: items).reverse

/-- The pairs of a table in braces up to the closing one, added to those read. -/
def readInline : (steps : Nat) → Tree → Reader Value
  | 0, _ => fail
  | steps + 1, t => do
    let key ← readKey ((← get).length + 1)
    expect "="
    skipBlanks
    let v ← readValue steps
    let t ← t.insert v true key
    skipBlanks
    if ← takeIf "," then readInline steps t
    else
      expect "\x7d"
      return .table t.toFields

end

/-- The lines of a document, added to the tree read so far; `header` is the table they go to. -/
def readLines : (steps : Nat) → (header : List String) → Tree → Reader Tree
  | 0, _, _ => fail
  | steps + 1, header, t => do
    skipBlanks
    match ← peek? with
    | none => return t
    | some '[' =>
      drop 1
      let double ← takeIf "["
      let key ← readKey ((← get).length + 1)
      expect (if double then "]]" else "]")
      finishLine
      match key.getLast? with
      | none => fail
      | some k =>
        let t ← t.descend (if double then Tree.openItem k else Tree.openTable k) key.dropLast
        readLines steps key t
    | some '#' | some '\n' | some '\r' =>
      finishLine
      readLines steps header t
    | some _ =>
      let key ← readKey ((← get).length + 1)
      expect "="
      skipBlanks
      let v ← readValue ((← get).length + 1)
      finishLine
      let t ← t.descend (Tree.insert v true key) header
      readLines steps header t

/-- Reads a document; a byte order mark in front of it is passed over. -/
def parse (text : String) : Except Fault Fields := do
  let chars := match text.toList with
    | '\uFEFF' :: rest => rest
    | l => l
  let (t, _) ← (readLines (chars.length + 1) [] []).run chars
  return t.toFields

end Parlance.Toml
