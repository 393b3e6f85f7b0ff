import Parlance.Text.Words

/-!
Dates of the proleptic Gregorian calendar, from `-262143-01-01` to `+262142-12-31`, with their
written form.
-/

namespace Parlance.Calendar

def isLeapYear (year : Int) : Bool :=
  year % 4 = 0 ∧ (year % 100 ≠ 0 ∨ year % 400 = 0)

def daysInMonth (year : Int) (month : Nat) : Nat :=
  match month with
  | 4 | 6 | 9 | 11 => 30
  | 2 => if isLeapYear year then 29 else 28
  | _ => 31

def firstYear : Int := -262143

def lastYear : Int := 262142

/-- Whether a year, month and day make a date. -/
def IsDate (year : Int) (month day : Nat) : Prop :=
  firstYear ≤ year ∧ year ≤ lastYear ∧ 1 ≤ month ∧ month ≤ 12 ∧ 1 ≤ day ∧ day ≤ daysInMonth year month

instance (year : Int) (month day : Nat) : Decidable (IsDate year month day) :=
  inferInstanceAs (Decidable (_ ∧ _))

structure Date where
  year : Int
  month : Nat
  day : Nat
  isDate : IsDate year month day
  deriving DecidableEq

namespace Date

def of? (year : Int) (month day : Nat) : Option Date :=
  if h : IsDate year month day then some ⟨year, month, day, h⟩ else none

/-- The day after; there is none after the last date. -/
def next? (d : Date) : Option Date :=
  if d.day < daysInMonth d.year d.month then of? d.year d.month (d.day + 1)
  else if d.month < 12 then of? d.year (d.month + 1) 1
  else of? (d.year + 1) 1 1

/-- The day before; there is none before the first date. -/
def previous? (d : Date) : Option Date :=
  if 1 < d.day then of? d.year d.month (d.day - 1)
  else if 1 < d.month then of? d.year (d.month - 1) (daysInMonth d.year (d.month - 1))
  else of? (d.year - 1) 12 31

/-- A number in at least `width` digits. -/
def padded (width n : Nat) : String :=
  let ds := Nat.toDigits 10 n
  String.ofList (List.replicate (width - ds.length) '0' ++ ds)

/-- Years of four digits are written plain, all others with their sign. -/
def yearText (year : Int) : String :=
  if 0 ≤ year ∧ year ≤ 9999 then padded 4 year.toNat
  else (if year < 0 then "-" else "+") ++ padded 4 year.natAbs

def text (d : Date) : String :=
  yearText d.year ++ "-" ++ padded 2 d.month ++ "-" ++ padded 2 d.day

/-! Reading dates. -/

/-- The number that a text starts with, of at most `most` digits, and what follows. -/
def readNumber (most : Nat) (l : List Char) : Option (Nat × List Char) :=
  let ds := (l.take most).takeWhile Char.isDigit
  if ds.isEmpty then none
  else some (ds.foldl (fun n c => n * 10 + (c.toNat - 48)) 0, l.drop ds.length)

def skipBlanks (l : List Char) : List Char :=
  l.dropWhile Unicode.isWhiteSpace

/-- A year: four digits at most, or any number of them behind a sign. -/
def readYear (l : List Char) : Option (Int × List Char) :=
  match skipBlanks l with
  | '-' :: rest => (readNumber rest.length rest).map fun (n, rest) => (-(n : Int), rest)
  | '+' :: rest => (readNumber rest.length rest).map fun (n, rest) => ((n : Int), rest)
  | l => (readNumber 4 l).map fun (n, rest) => ((n : Int), rest)

def readDash : List Char → Option (List Char)
  | '-' :: rest => some rest
  | _ => none

/-- Reads a date. Blanks may stand before a number, and where `spaced` holds also before the dashes
and at the end. -/
def read? (spaced : Bool) (s : String) : Option Date := do
  let gap (l : List Char) := if spaced then skipBlanks l else l
  let (year, l) ← readYear s.toList
  let (month, l) ← readNumber 2 (skipBlanks (← readDash (gap l)))
  let (day, l) ← readNumber 2 (skipBlanks (← readDash (gap l)))
  if (gap l).isEmpty then of? year month day else none

end Date

end Parlance.Calendar
