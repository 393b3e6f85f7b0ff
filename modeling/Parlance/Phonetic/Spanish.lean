/-!
Spanish spelling made phonetic: letters that Spanish speakers pronounce alike become one letter.
-/

namespace Parlance.Phonetic

/-- `ll` becomes `y`, `qu` becomes `k`, `z` and soft `c` become `s`, `v` becomes `b`; `h` is silent
except in `ch`. -/
def flattenSpanish : List Char → List Char
  | 'l' :: 'l' :: rest => 'y' :: flattenSpanish rest
  | 'q' :: 'u' :: rest => 'k' :: flattenSpanish rest
  | 'c' :: 'h' :: rest => 'c' :: 'h' :: flattenSpanish rest
  | 'c' :: 'e' :: rest => 's' :: flattenSpanish ('e' :: rest)
  | 'c' :: 'i' :: rest => 's' :: flattenSpanish ('i' :: rest)
  | 'z' :: rest => 's' :: flattenSpanish rest
  | 'h' :: rest => flattenSpanish rest
  | 'v' :: rest => 'b' :: flattenSpanish rest
  | c :: rest => c :: flattenSpanish rest
  | [] => []

end Parlance.Phonetic
