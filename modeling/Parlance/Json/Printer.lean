import Parlance.Json.Value
import Parlance.Decimal.Shortest

/-!
The compact written form of JSON values, on one line.
-/

namespace Parlance.Json

def escapeChar (c : Char) : String :=
  match c with
  | '"' => "\\\""
  | '\\' => "\\\\"
  | '\n' => "\\n"
  | '\r' => "\\r"
  | '\t' => "\\t"
  | '\x08' => "\\b"
  | '\x0c' => "\\f"
  | c =>
    if c.toNat < 0x20 then
      let ds := Nat.toDigits 16 c.toNat
      "\\u" ++ String.ofList (List.replicate (4 - ds.length) '0' ++ ds)
    else c.toString

def renderText (s : String) : String :=
  "\"" ++ String.join (s.toList.map escapeChar) ++ "\""

/-- Digits with a point, positional from `1e-5` up to `1e16`, else with an exponent. -/
def renderDigits (d : Decimal.Digits) : String :=
  let ds := Nat.toDigits 10 d.digits
  let point : Int := ds.length + d.exponent
  if 0 ≤ d.exponent ∧ point ≤ 16 then Decimal.positional d ++ ".0"
  else if -5 < point ∧ point ≤ 16 then Decimal.positional d
  else
    let tail := ds.drop 1
    String.ofList (ds.take 1) ++ (if tail.isEmpty then "" else "." ++ String.ofList tail) ++ "e" ++
      toString (point - 1)

/-- A real; infinities and what is no number have no JSON form and become `null`. -/
def renderReal (x : Float) : String :=
  let (negative, magnitude) := Decimal.decode x
  let sign := if negative then "-" else ""
  match magnitude with
  | .nan | .infinite => "null"
  | .zero => sign ++ "0.0"
  | .finite m q => sign ++ renderDigits (Decimal.shortest m q)

mutual

def render : Json → String
  | .null => "null"
  | .bool b => if b then "true" else "false"
  | .integer n => toString n
  | .real x => renderReal x
  | .text s => renderText s
  | .array items => "[" ++ ",".intercalate (renderItems items) ++ "]"
  | .object fields => "\x7b" ++ ",".intercalate (renderFields fields) ++ "\x7d"

def renderItems : List Json → List String
  | [] => []
  | x :: rest => render x :: renderItems rest

def renderFields : List (String × Json) → List String
  | [] => []
  | (k, x) :: rest => (renderText k ++ ":" ++ render x) :: renderFields rest

end

end Parlance.Json
