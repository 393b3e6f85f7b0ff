/-!
The numbers that decimal numerals stand for.
-/

namespace Parlance.Decimal

def digitsValue (l : List Char) : Nat :=
  l.foldl (fun n c => n * 10 + (c.toNat - 48)) 0

/-- The double nearest to `digits * 10 ^ exponent`. Far outside the range of doubles that is zero or
infinity, whatever the digits. -/
def scaled (digits : Nat) (exponent : Int) : Float :=
  let places : Int := (Nat.toDigits 10 digits).length + exponent
  if digits = 0 ∨ places < -400 then 0.0
  else if 400 < places then 1.0 / 0.0
  else if exponent < 0 then Float.ofScientific digits true exponent.natAbs
  else Float.ofScientific digits false exponent.natAbs

/-- The value of digits with at most one point among them; a digit has to be there. -/
def unsigned? (l : List Char) : Option Float :=
  let whole := l.takeWhile Char.isDigit
  match l.drop whole.length with
  | [] => if whole.isEmpty then none else some (scaled (digitsValue whole) 0)
  | '.' :: fraction =>
    if fraction.all Char.isDigit && !(whole.isEmpty && fraction.isEmpty) then
      some (scaled (digitsValue (whole ++ fraction)) (-fraction.length))
    else none
  | _ => none

/-- The value of a numeral with an optional sign. -/
def signed? : List Char → Option Float
  | '-' :: l => (unsigned? l).map (-·)
  | '+' :: l => unsigned? l
  | l => unsigned? l

end Parlance.Decimal
