/-!
The shortest decimal that reads back as a given floating-point number. A finite number is
`m * 2 ^ q`; the reals that round to it form an interval, and of the decimal grids `10 ^ p` the
coarsest with a point in the interval is chosen, on it the point nearest to the number, the upper
one of two equally near.
-/

namespace Parlance.Decimal

/-- Significant digits and the power of ten they are multiplied by. -/
structure Digits where
  digits : Nat
  exponent : Int
  deriving DecidableEq, Repr

/-- What a floating-point number is, with its sign apart. -/
inductive Magnitude where
  | zero
  | finite (m : Nat) (q : Int)
  | infinite
  | nan
  deriving DecidableEq, Repr

def decode (x : Float) : Bool × Magnitude :=
  let bits : Nat := x.toBits.toNat
  let negative := 0x8000000000000000 ≤ bits
  let biased : Nat := bits / 0x10000000000000 % 0x800
  let fraction : Nat := bits % 0x10000000000000
  let magnitude : Magnitude :=
    if biased = 2047 then (if fraction = 0 then .infinite else .nan)
    else if biased = 0 then (if fraction = 0 then .zero else .finite fraction (-1074))
    else .finite (0x10000000000000 + fraction) ((biased : Int) - 1075)
  (negative, magnitude)

/-- `a * 2 ^ e` and `b * 10 ^ p` compared as reals, by clearing the denominators. -/
def compareScaled (a : Nat) (e : Int) (b : Nat) (p : Int) : Ordering :=
  compare (a * Nat.pow 2 e.toNat * Nat.pow 10 (-p).toNat) (b * Nat.pow 10 p.toNat * Nat.pow 2 (-e).toNat)

/-- The integer part of `a * 2 ^ e / 10 ^ p`. -/
def floorScaled (a : Nat) (e p : Int) : Nat :=
  a * Nat.pow 2 e.toNat * Nat.pow 10 (-p).toNat / (Nat.pow 10 p.toNat * Nat.pow 2 (-e).toNat)

/-- The interval of reals that round to `m * 2 ^ q`, its ends as multiples of `2 ^ (q - 2)`. It is
shorter below a power of two, and holds its ends exactly if `m` is even. -/
structure Rounding where
  low : Nat
  high : Nat
  exponent : Int
  closed : Bool

def Rounding.of (m : Nat) (q : Int) : Rounding :=
  let low := if m = 0x10000000000000 ∧ q ≠ -1074 then 4 * m - 1 else 4 * m - 2
  ⟨low, 4 * m + 2, q - 2, m % 2 = 0⟩

/-- Whether `d * 10 ^ p` rounds to the number. -/
def Rounding.contains (r : Rounding) (d : Nat) (p : Int) : Bool :=
  let low := compareScaled r.low r.exponent d p
  let high := compareScaled r.high r.exponent d p
  if r.closed then low != .gt && high != .lt else low == .lt && high == .gt

/-- The better of the two grid points around `m * 2 ^ q` on the grid `10 ^ p`. -/
def candidate? (m : Nat) (q p : Int) : Option Nat :=
  let r := Rounding.of m q
  let d := floorScaled m q p
  match r.contains d p, r.contains (d + 1) p with
  | true, true =>
    -- the middle between both, in halves
    if compareScaled (2 * m) q (2 * d + 1) p == .lt then some d else some (d + 1)
  | true, false => some d
  | false, true => some (d + 1)
  | false, false => none

/-- Tries grids from `10 ^ p` on, each ten times finer than the one before. -/
def search (m : Nat) (q : Int) : (tries : Nat) → Int → Digits
  | 0, p => ⟨floorScaled m q p, p⟩
  | tries + 1, p =>
    match candidate? m q p with
    | some d => ⟨d, p⟩
    | none => search m q tries (p - 1)

/-- The number of decimal digits before the point of `m * 2 ^ q`, or less. -/
def leadingExponent (m : Nat) (q : Int) : Int :=
  -- `2 ^ b ≤ m * 2 ^ q < 2 ^ (b + 1)`, and 1233 / 4096 is just below the logarithm of two
  let b := (Nat.log2 m : Int) + q
  (b * 1233).fdiv 4096 + 1

/-- Moves the zeros at the end of the digits into the exponent. -/
def dropZeros : (tries : Nat) → Digits → Digits
  | 0, d => d
  | tries + 1, d =>
    if d.digits ≠ 0 ∧ d.digits % 10 = 0 then dropZeros tries ⟨d.digits / 10, d.exponent + 1⟩ else d

/-- The shortest decimal that reads back as `m * 2 ^ q`. -/
def shortest (m : Nat) (q : Int) : Digits :=
  dropZeros 20 (search m q 24 (leadingExponent m q))

/-- Digits written positionally, without exponent and without a point when nothing follows it. -/
def positional (d : Digits) : String :=
  let ds := Nat.toDigits 10 d.digits
  if 0 ≤ d.exponent then String.ofList (ds ++ List.replicate d.exponent.toNat '0')
  else
    let places := (-d.exponent).toNat
    let padded := List.replicate (places + 1 - ds.length) '0' ++ ds
    let whole := padded.length - places
    String.ofList (padded.take whole ++ '.' :: padded.drop whole)

/-- A number in a message: its shortest digits, never with an exponent. -/
def text (x : Float) : String :=
  let (negative, magnitude) := decode x
  let sign := if negative then "-" else ""
  match magnitude with
  | .nan => "NaN"
  | .infinite => sign ++ "inf"
  | .zero => sign ++ "0"
  | .finite m q => sign ++ positional (shortest m q)

end Parlance.Decimal
