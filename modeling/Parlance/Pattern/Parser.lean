import Parlance.Pattern.CharSet
import Parlance.Pattern.Node

/-!
Reading patterns from text. The notation has alternatives, groups with names and flags, greedy and
lazy repetitions, classes with set operations, and places such as word boundaries. It has neither
references back to groups nor conditions on what follows or precedes.
-/

namespace Parlance.Pattern

inductive Fault where
  | unclosedGroup
  | unopenedGroup
  | badGroupName
  | duplicateGroupName
  | lookAround
  | badFlag
  | missingOperand
  | badCount
  | unclosedClass
  | badRange
  | unknownClass
  | badEscape
  /-- Without Unicode the pattern could end inside a character. -/
  | splitsCharacters
  | tooLarge
  deriving DecidableEq, Repr

/-- The switches that `(?i)` and the like set. -/
structure Flags where
  ignoreCase : Bool := false
  multiLine : Bool := false
  dotAll : Bool := false
  swapGreed : Bool := false
  carriageReturns : Bool := false
  extended : Bool := false
  unicode : Bool := true
  deriving DecidableEq, Repr

/-- What is left to read, the switches in force and the names of groups so far. -/
structure State where
  rest : List Char
  flags : Flags
  names : List String
  /-- The text ended inside a comment. -/
  openComment : Bool

abbrev Reader := StateT State (Except Fault)

namespace Reader

def fail {α : Type} (f : Fault) : Reader α := fun _ => .error f

def peek? : Reader (Option Char) := do
  return (← get).rest.head?

def drop (n : Nat) : Reader Unit :=
  modify fun s => { s with rest := s.rest.drop n }

/-- What follows blanks and comments, and whether the text ends inside a comment. -/
def skipIgnored (inComment : Bool) : List Char → List Char × Bool
  | [] => ([], inComment)
  | c :: rest =>
    if inComment then skipIgnored (c ≠ '\n') rest
    else if Unicode.isWhiteSpace c then skipIgnored false rest
    else if c = '#' then skipIgnored true rest
    else (c :: rest, false)

/-- Passes over blanks and comments where the switch for them is on. -/
def skip : Reader Unit :=
  modify fun s =>
    if s.flags.extended then
      let (rest, openComment) := skipIgnored false s.rest
      { s with rest, openComment := s.openComment || openComment }
    else s

/-- Drops one character and what is to be passed over behind it. -/
def dropAndSkip : Reader Unit := do
  drop 1
  skip

/-- Takes a given beginning, if the text has it. -/
def takeIf (beginning : String) : Reader Bool := do
  let s ← get
  if beginning.toList.isPrefixOf s.rest then
    drop beginning.length
    return true
  else return false

/-- The characters up to the first that is not in a class. -/
def takeWhile (p : Char → Bool) : Reader (List Char) := do
  let s ← get
  let taken := s.rest.takeWhile p
  drop taken.length
  return taken

end Reader

open Reader

/-- What an escape or a plain character stands for. -/
inductive Primitive where
  | char (c : Char)
  | set (s : CharSet)
  | look (p : Option Char → Option Char → Bool)

def hexValue? (l : List Char) : Option Nat :=
  if l.isEmpty then none
  else l.foldlM (fun n c =>
    if c.isDigit then some (n * 16 + (c.toNat - 48))
    else if 'a' ≤ c ∧ c ≤ 'f' then some (n * 16 + (c.toNat - 87))
    else if 'A' ≤ c ∧ c ≤ 'F' then some (n * 16 + (c.toNat - 55))
    else none) 0

def charOfHex (l : List Char) : Reader Char :=
  match hexValue? l with
  | some n => if n.isValidChar then return Char.ofNat n else fail .badEscape
  | none => fail .badEscape

/-- A code point in base 16, between braces or of a fixed number of digits. -/
def readHex (digits : Nat) : Reader Char := do
  skip
  match ← peek? with
  | none => fail .badEscape
  | some '\x7b' =>
    drop 1
    let body ← takeWhile (· ≠ '\x7d')
    let extended := (← get).flags.extended
    match ← peek? with
    | none => fail .badEscape
    | some _ =>
      drop 1
      charOfHex (if extended then body.filter fun c => !Unicode.isWhiteSpace c else body)
  | some _ =>
    let s ← get
    let body := s.rest.take digits
    if body.length < digits then fail .badEscape
    drop digits
    charOfHex body

/-- A class after `\p` or `\P`. -/
def readNamedClass (negated : Bool) : Reader CharSet := do
  skip
  let flags := (← get).flags
  let finish (found : Option CharSet) : Reader CharSet :=
    match found with
    | none => fail .unknownClass
    | some s =>
      if flags.unicode then
        return (if flags.ignoreCase then s.ignoringCase else s).negateIf negated
      else fail .unknownClass
  match ← peek? with
  | none => fail .badEscape
  | some '\x7b' =>
    drop 1
    let body ← takeWhile (· ≠ '\x7d')
    match ← peek? with
    | none => fail .badEscape
    | some _ =>
      drop 1
      finish (CharSet.named? (String.ofList body))
  | some '\\' => fail .unknownClass
  | some c =>
    drop 1
    finish (CharSet.category? (CharSet.looseName c.toString))

def isWordAt (unicode : Bool) (c : Option Char) : Bool :=
  c.any (CharSet.word unicode)

/-- A place by its name in `\b{name}`. -/
def wordPlace? (unicode : Bool) (name : String) : Option (Option Char → Option Char → Bool) :=
  let w := isWordAt unicode
  match name with
  | "start" => some fun a b => !w a && w b
  | "end" => some fun a b => w a && !w b
  | "start-half" => some fun a _ => !w a
  | "end-half" => some fun _ b => !w b
  | _ => none

/-- What follows `\b`: a named place between braces, or the plain word boundary, which may then be
repeated. -/
def readWordBoundary (unicode : Bool) : Reader Primitive := do
  let boundary := Primitive.look fun a b => isWordAt unicode a != isWordAt unicode b
  let isNameChar (c : Char) : Bool := c.isAlpha || c = '-'
  match ← peek? with
  | some '\x7b' =>
    let saved ← get
    dropAndSkip
    match ← peek? with
    | none => fail .badEscape
    | some c =>
      if isNameChar c then
        let name ← takeWhile isNameChar
        match ← peek?, wordPlace? unicode (String.ofList name) with
        | some '\x7d', some p =>
          drop 1
          return .look p
        | _, _ => fail .badEscape
      else
        set saved
        return boundary
  | _ => return boundary

/-- A class of digits, blanks or word characters, or what is not in it. -/
def shorthand (flags : Flags) (s : Bool → CharSet) (negated : Bool) : Reader Primitive :=
  if negated && !flags.unicode then fail .splitsCharacters
  else return .set ((s flags.unicode).negateIf negated)

def readEscape : Reader Primitive := do
  let flags := (← get).flags
  match ← peek? with
  | none => fail .badEscape
  | some c =>
    drop 1
    match c with
    | 'x' => return .char (← readHex 2)
    | 'u' => return .char (← readHex 4)
    | 'U' => return .char (← readHex 8)
    | 'p' => return .set (← readNamedClass false)
    | 'P' => return .set (← readNamedClass true)
    | 'd' => shorthand flags CharSet.digit false
    | 'D' => shorthand flags CharSet.digit true
    | 's' => shorthand flags CharSet.space false
    | 'S' => shorthand flags CharSet.space true
    | 'w' => shorthand flags CharSet.word false
    | 'W' => shorthand flags CharSet.word true
    | 'a' => return .char '\x07'
    | 'f' => return .char '\x0c'
    | 't' => return .char '\t'
    | 'n' => return .char '\n'
    | 'r' => return .char '\r'
    | 'v' => return .char '\x0b'
    | 'A' => return .look fun a _ => a.isNone
    | 'z' => return .look fun _ b => b.isNone
    | 'b' => readWordBoundary flags.unicode
    | 'B' => return .look fun a b => isWordAt flags.unicode a == isWordAt flags.unicode b
    | '<' => return .look fun a b => !isWordAt flags.unicode a && isWordAt flags.unicode b
    | '>' => return .look fun a b => isWordAt flags.unicode a && !isWordAt flags.unicode b
    | c => if c.toNat < 0x80 && !c.isAlphanum then return .char c else fail .badEscape

/-! Classes between brackets. -/

/-- The class with other cases, where the switch for them is on. -/
def foldClass (flags : Flags) (s : CharSet) : CharSet :=
  if !flags.ignoreCase then s
  else if flags.unicode then s.ignoringCase
  else s.ignoringAsciiCase

inductive SetOp where
  | inter
  | diff
  | symmDiff

def SetOp.apply : SetOp → CharSet → CharSet → CharSet
  | inter => CharSet.inter
  | diff => CharSet.diff
  | symmDiff => CharSet.symmDiff

/-- The operation whose sign stands at the beginning of a text. -/
def setOp? : List Char → Option SetOp
  | '&' :: '&' :: _ => some .inter
  | '-' :: '-' :: _ => some .diff
  | '~' :: '~' :: _ => some .symmDiff
  | _ => none

/-- Completes the operation that waits for its right side. -/
def applyPending (flags : Flags) (pending : Option (SetOp × CharSet)) (right : CharSet) : CharSet :=
  match pending with
  | none => right
  | some (op, left) => op.apply (foldClass flags left) (foldClass flags right)

/-- The class whose name stands before `:]`, and what follows. -/
def asciiName? (l : List Char) : Option (CharSet × List Char) :=
  match l.dropWhile (· ≠ ':'), CharSet.ascii? (String.ofList (l.takeWhile (· ≠ ':'))) with
  | ':' :: ']' :: rest, some p => some (p, rest)
  | _, _ => none

/-- A class such as `[:alpha:]`, whether it is negated, and what follows. -/
def asciiClass? : List Char → Option (Bool × CharSet × List Char)
  | '[' :: ':' :: '^' :: l => (asciiName? l).map (true, ·)
  | '[' :: ':' :: l => (asciiName? l).map (false, ·)
  | _ => none

/-- Goes on behind a class such as `[:alpha:]`. -/
def takeAsciiClass (negated : Bool) (p : CharSet) (rest : List Char) : Reader CharSet := do
  let s ← get
  if negated && !s.flags.unicode then fail .splitsCharacters
  else
    set { s with rest }
    return (foldClass s.flags p).negateIf negated

def readClassItem : Reader Primitive := do
  match ← peek? with
  | none => fail .unclosedClass
  | some '\\' =>
    drop 1
    readEscape
  | some c =>
    drop 1
    return .char c

def itemClass : Primitive → Reader CharSet
  | .char c => return CharSet.single c
  | .set s => return s
  | .look _ => fail .badEscape

def readClassRange : Reader CharSet := do
  let first ← readClassItem
  skip
  match ← peek? with
  | none => fail .unclosedClass
  | some '-' =>
    let saved ← get
    dropAndSkip
    match ← peek? with
    | none => fail .unclosedClass
    | some c =>
      if c = ']' || c = '-' then
        set saved
        itemClass first
      else
        match first, ← readClassItem with
        | .char a, .char b => if a ≤ b then return CharSet.range a b else fail .badRange
        | _, _ => fail .badRange
  | some _ => itemClass first

/-- Dashes at the beginning of a class stand for themselves. -/
def readLeadingDashes : (steps : Nat) → CharSet → Reader CharSet
  | 0, s => return s
  | steps + 1, s => do
    match ← peek? with
    | some '-' =>
      dropAndSkip
      readLeadingDashes steps (s.union (CharSet.single '-'))
    | _ => return s

/-- Whether a caret opens a class. -/
def readNegation : Reader Bool := do
  match ← peek? with
  | some '^' =>
    dropAndSkip
    return true
  | _ => return false

/-- A closing bracket at the beginning of a class stands for itself, like dashes there. -/
def readClassStart : Reader CharSet := do
  match ← peek? with
  | some ']' =>
    dropAndSkip
    return CharSet.single ']'
  | _ => readLeadingDashes (← get).rest.length CharSet.none

mutual

def readClass : (steps : Nat) → Reader CharSet
  | 0 => fail .unclosedClass
  | steps + 1 => do
    dropAndSkip
    let negated ← readNegation
    let start ← readClassStart
    let s ← readClassItems steps none start
    let flags := (← get).flags
    if negated && !flags.unicode then fail .splitsCharacters
    else return (foldClass flags s).negateIf negated

/-- The items of a class up to its closing bracket, added to those read since the last operation. -/
def readClassItems :
    (steps : Nat) → (pending : Option (SetOp × CharSet)) → CharSet → Reader CharSet
  | 0, _, _ => fail .unclosedClass
  | steps + 1, pending, s => do
    skip
    let flags := (← get).flags
    match setOp? (← get).rest with
    | some op =>
      drop 2
      readClassItems steps (some (op, applyPending flags pending s)) CharSet.none
    | none =>
      match ← peek? with
      | none => fail .unclosedClass
      | some '[' =>
        let inner ← match asciiClass? (← get).rest with
          | some (negated, p, rest) => takeAsciiClass negated p rest
          | none => readClass steps
        readClassItems steps pending (s.union inner)
      | some ']' =>
        drop 1
        return applyPending flags pending s
      | some _ =>
        let r ← readClassRange
        readClassItems steps pending (s.union r)

end

/-! Repetitions and groups. -/

/-- The most nodes that a pattern may unfold to. -/
def sizeLimit : Nat := 200000

namespace Node

def size : Node → Nat
  | .seq a b | .alt a b => a.size + b.size + 1
  | .opt _ a | .plus _ a => a.size + 1
  | _ => 1

def upTo (greedy : Bool) (a : Node) : (n : Nat) → Node
  | 0 => .empty
  | n + 1 => .opt greedy (.seq a (upTo greedy a n))

def times (greedy : Bool) (a : Node) (least : Nat) (most : Option Nat) : Node :=
  match least, most with
  | 0, none => star greedy a
  | n + 1, none => all (List.replicate n a ++ [.plus greedy a])
  | n, some m => all (List.replicate n a ++ if n < m then [upTo greedy a (m - n)] else [])

end Node

def readCount : Reader (Option Nat) := do
  let _ ← takeWhile Unicode.isWhiteSpace
  let digits ← takeWhile Char.isDigit
  let _ ← takeWhile Unicode.isWhiteSpace
  skip
  match digits with
  | [] => return none
  | _ =>
    match (String.ofList digits).toNat? with
    | some n => if n < 0x100000000 then return some n else fail .badCount
    | none => fail .badCount

/-- The upper bound behind a comma, absent for none; without a comma it is the lower one. -/
def readMost (least : Nat) : Reader (Option Nat) := do
  match ← peek? with
  | some ',' =>
    dropAndSkip
    match ← peek? with
    | some '\x7d' => return none
    | _ =>
      match ← readCount with
      | some m => return some m
      | none => fail .badCount
  | _ => return some least

def readBounds : Reader (Nat × Option Nat) := do
  skip
  match ← readCount with
  | none => fail .badCount
  | some least =>
    let most ← readMost least
    match ← peek? with
    | some '\x7d' =>
      dropAndSkip
      if most.any (· < least) then fail .badCount else return (least, most)
    | _ => fail .badCount

/-- Whether the repetition is greedy: a question mark behind it and the switch for it turn it
around. -/
def readGreed : Reader Bool := do
  match ← peek? with
  | some '?' =>
    drop 1
    return (← get).flags.swapGreed
  | _ => return !(← get).flags.swapGreed

/-- Repeats the last item of a sequence; a setting of flags cannot be repeated. -/
def repeatLast (items : List (Option Node)) (least : Nat) (most : Option Nat) :
    Reader (List (Option Node)) := do
  let greedy ← readGreed
  match items with
  | some a :: rest =>
    if sizeLimit < a.size * most.getD (least + 1) then fail .tooLarge
    else
      let repeated := match least, most with
        | 0, some 1 => .opt greedy a
        | 1, none => .plus greedy a
        | n, m => a.times greedy n m
      return some repeated :: rest
  | _ => fail .missingOperand

def Primitive.node (flags : Flags) : Primitive → Node
  | .char c =>
    if !flags.ignoreCase then .one (CharSet.single c)
    else if flags.unicode then .one (CharSet.letter c)
    else .one (CharSet.single c).ignoringAsciiCase
  | .set s => .one s
  | .look p => .look p

/-- Any character but those that end a line. -/
def dot (flags : Flags) : Reader Node :=
  if !flags.unicode then fail .splitsCharacters
  else if flags.dotAll then return .one CharSet.any
  else if flags.carriageReturns then return .one fun c => c ≠ '\n' && c ≠ '\r'
  else return .one fun c => c ≠ '\n'

def lineStart (flags : Flags) (a b : Option Char) : Bool :=
  match a with
  | none => true
  | some c =>
    flags.multiLine &&
      (c = '\n' || (flags.carriageReturns && c = '\r' && b != some '\n'))

def lineEnd (flags : Flags) (a b : Option Char) : Bool :=
  match b with
  | none => true
  | some c =>
    flags.multiLine &&
      if flags.carriageReturns then c = '\r' || (c = '\n' && a != some '\r') else c = '\n'

def setFlag (f : Flags) (c : Char) (on : Bool) : Option Flags :=
  match c with
  | 'i' => some { f with ignoreCase := on }
  | 'm' => some { f with multiLine := on }
  | 's' => some { f with dotAll := on }
  | 'U' => some { f with swapGreed := on }
  | 'u' => some { f with unicode := on }
  | 'R' => some { f with carriageReturns := on }
  | 'x' => some { f with extended := on }
  | _ => none

/-- The switches after those that letters turn on, or off behind a minus sign. -/
def setFlags? (before : Flags) (letters : List Char) : Option Flags :=
  let add (f : Flags × Bool) (c : Char) : Option (Flags × Bool) :=
    if c = '-' then some (f.1, false) else (setFlag f.1 c f.2).map (·, f.2)
  (letters.foldlM add (before, true)).map Prod.fst

/-- Flags up to a colon or a closing parenthesis, each at most once and at most one minus sign with a
flag behind it. -/
def readFlags (before : Flags) : Reader Flags := do
  let letters ← takeWhile fun c => c ≠ ':' ∧ c ≠ ')'
  if letters.eraseDups.length ≠ letters.length || letters.getLast? == some '-' then fail .badFlag
  else
    match setFlags? before letters with
    | some f => return f
    | none => fail .badFlag

def isGroupName : List Char → Bool
  | [] => false
  | c :: rest =>
    (c = '_' || Unicode.isAlphabetic c) &&
      rest.all fun c => c = '_' || c = '.' || c = '[' || c = ']' || Unicode.isAlphanumeric c

def addGroupName (name : String) : Reader Unit := do
  let s ← get
  if s.names.contains name then fail .duplicateGroupName
  else set { s with names := name :: s.names }

def readGroupName : Reader Unit := do
  let name ← takeWhile (· ≠ '>')
  match ← peek? with
  | none => fail .badGroupName
  | some _ =>
    drop 1
    if isGroupName name then addGroupName (String.ofList name) else fail .badGroupName

def lookArounds : List String :=
  ["?=", "?!", "?<=", "?<!"]

/-- What stands before the body of a group; a setting of flags has no body. -/
def readGroupHead : Reader Bool := do
  let s ← get
  if lookArounds.any fun b => b.toList.isPrefixOf s.rest then fail .lookAround
  else if ← takeIf "?P<" then
    readGroupName
    return true
  else if ← takeIf "?<" then
    readGroupName
    return true
  else if ← takeIf "?" then
    let first ← peek?
    let flags ← readFlags s.flags
    modify fun s => { s with flags }
    match ← peek? with
    | some ')' =>
      drop 1
      if first == some ')' then fail .missingOperand else return false
    | some _ =>
      drop 1
      return true
    | none => fail .unclosedGroup
  else return true

mutual

/-- Alternatives up to the end of the group or the text. -/
def readAlternatives : (steps : Nat) → Reader Node
  | 0 => fail .tooLarge
  | steps + 1 => do
    let first ← readSequence steps []
    match ← peek? with
    | some '|' =>
      drop 1
      return .alt first (← readAlternatives steps)
    | _ => return first

/-- A sequence of items, after those read before, the last first. An absent item is a setting of
flags. -/
def readSequence : (steps : Nat) → List (Option Node) → Reader Node
  | 0, _ => fail .tooLarge
  | steps + 1, items => do
    skip
    let flags := (← get).flags
    match ← peek? with
    | none | some ')' | some '|' => return Node.all (items.reverse.filterMap id)
    | some '(' =>
      let item ← readGroup steps
      readSequence steps (item :: items)
    | some '[' =>
      let s ← readClass steps
      readSequence steps (some (.one s) :: items)
    | some '?' =>
      drop 1
      readSequence steps (← repeatLast items 0 (some 1))
    | some '*' =>
      drop 1
      readSequence steps (← repeatLast items 0 none)
    | some '+' =>
      drop 1
      readSequence steps (← repeatLast items 1 none)
    | some '\x7b' =>
      match items with
      | some _ :: _ => pure ()
      | _ => fail .missingOperand
      drop 1
      let (least, most) ← readBounds
      readSequence steps (← repeatLast items least most)
    | some '.' =>
      drop 1
      readSequence steps (some (← dot flags) :: items)
    | some '^' =>
      drop 1
      readSequence steps (some (.look (lineStart flags)) :: items)
    | some '$' =>
      drop 1
      readSequence steps (some (.look (lineEnd flags)) :: items)
    | some '\\' =>
      drop 1
      let p ← readEscape
      readSequence steps (some (p.node flags) :: items)
    | some c =>
      drop 1
      readSequence steps (some ((Primitive.char c).node flags) :: items)

/-- A group from its opening parenthesis on; absent for a setting of flags, which stays in force to
the end of the group around it. -/
def readGroup : (steps : Nat) → Reader (Option Node)
  | 0 => fail .tooLarge
  | steps + 1 => do
    dropAndSkip
    let outer := (← get).flags
    if ← readGroupHead then
      let a ← readAlternatives steps
      match ← peek? with
      | some ')' =>
        drop 1
        modify fun s => { s with flags := outer }
        return some a
      | _ => fail .unclosedGroup
    else return none

end

/-- A pattern as read: the names of its groups, and whether its text ends inside a comment, which
would swallow whatever were written behind it. -/
structure Parsed where
  node : Node
  names : List String
  openComment : Bool

/-- Reads the text of a pattern, with the given switches on. -/
def parse (flags : Flags) (text : String) : Except Fault Parsed := do
  let chars := text.toList
  -- each step reads a character or goes one group or alternative deeper
  let (node, s) ← (readAlternatives (3 * chars.length + 4)).run ⟨chars, flags, [], false⟩
  match s.rest with
  | [] => return ⟨node, s.names, s.openComment⟩
  | _ => throw .unopenedGroup

end Parlance.Pattern
