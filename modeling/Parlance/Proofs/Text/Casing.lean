import Parlance.Proofs.Text.Words
import Parlance.Proofs.Unicode.Casing

/-!
Trimmed texts in lower and in upper case. Main statements: `trimList_lowercase`, that a trimmed text
stays trimmed in lower case, and `trim_uppercase`, that trimming may be done before or after turning
to upper case.
-/

namespace Parlance.Text

open Unicode

variable {l : List Char}

/-- What starts and ends with what the first and the last character of a trimmed text become is
trimmed, where no blanks come of these. -/
theorem trimList_of_ends {r : List Char} (h : trimList isWhiteSpace l = l) (hnil : l = [] → r = [])
    (hfirst : ∀ c rest, l = c :: rest → ¬isWhiteSpace c →
      ∃ x y, r = x ++ y ∧ x ≠ [] ∧ ∀ d ∈ x, ¬isWhiteSpace d)
    (hlast : ∀ rest c, l = rest ++ [c] → ¬isWhiteSpace c →
      ∃ x y, r = y ++ x ∧ x ≠ [] ∧ ∀ d ∈ x, ¬isWhiteSpace d) :
    trimList isWhiteSpace r = r := by
  obtain ⟨hhead, hend⟩ := trimList_eq_self_iff.1 h
  apply trimList_eq_self
  · intro d hd
    cases l with
    | nil =>
      rw [hnil rfl] at hd
      cases hd
    | cons c rest =>
      obtain ⟨x, y, rfl, hx, hsolid⟩ := hfirst c rest rfl (hhead c rfl)
      rw [List.head?_append_of_ne_nil _ hx] at hd
      exact hsolid d (List.mem_of_mem_head? hd)
  · intro d hd
    rcases List.eq_nil_or_concat l with rfl | ⟨rest, c, rfl⟩
    · rw [hnil rfl] at hd
      cases hd
    · rw [List.concat_eq_append] at hend hlast
      obtain ⟨x, y, rfl, hx, hsolid⟩ := hlast rest c rfl (hend c (by simp))
      rw [List.getLast?_append_of_ne_nil _ hx] at hd
      exact hsolid d (List.mem_of_getLast? hd)

/-! Lower case. -/

/-- A trimmed text stays trimmed in lower case. -/
theorem trimList_lowercase (h : trimList isWhiteSpace l = l) :
    trimList isWhiteSpace (Unicode.lowercase l) = Unicode.lowercase l := by
  refine trimList_of_ends h ?_ ?_ ?_
  · rintro rfl
    rfl
  · rintro c rest rfl hc
    exact ⟨_, _, lowercaseFrom_cons false c rest, lowercaseWithin_ne_nil _ _ c,
      fun d hd => not_isWhiteSpace_of_mem_lowercaseWithin hc hd⟩
  · rintro rest c rfl hc
    exact ⟨_, _, lowercaseFrom_append_singleton false rest c, lowercaseWithin_ne_nil _ _ c,
      fun d hd => not_isWhiteSpace_of_mem_lowercaseWithin hc hd⟩

@[simp] theorem lowercase_lowercase (s : String) : Text.lowercase (Text.lowercase s) = Text.lowercase s := by
  unfold Text.lowercase
  rw [String.toList_ofList, Unicode.lowercase_of_lowered fun c hc => lowered_of_mem_lowercase hc]

theorem lowercase_eq_empty_iff {s : String} : Text.lowercase s = "" ↔ s = "" := by
  rw [← String.toList_eq_nil_iff, ← String.toList_eq_nil_iff (b := s), Text.lowercase,
    String.toList_ofList]
  constructor
  · intro h
    cases hs : s.toList with
    | nil => rfl
    | cons c l =>
      rw [hs, Unicode.lowercase, lowercaseFrom_cons] at h
      exact absurd (List.append_eq_nil_iff.1 h).1 (lowercaseWithin_ne_nil _ _ c)
  · intro h
    rw [h]
    rfl

theorem trim_lowercase_trim (s : String) :
    trim (Text.lowercase (trim s)) = Text.lowercase (trim s) := by
  apply String.toList_injective
  rw [toList_trim, Text.lowercase, String.toList_ofList]
  refine trimList_lowercase ?_
  rw [toList_trim, trimList_trimList]

/-! Upper case. -/

/-- A text in upper case. -/
def uppercase (s : String) : String :=
  String.ofList (Unicode.uppercase s.toList)

theorem uppercase_blank {b : List Char} (h : ∀ c ∈ b, isWhiteSpace c) : Unicode.uppercase b = b := by
  induction b with
  | nil => rfl
  | cons c b ih =>
    obtain ⟨hc, hb⟩ := List.forall_mem_cons.1 h
    rw [uppercase_cons, uppercaseChar_of_isWhiteSpace hc, ih hb, List.singleton_append]

theorem trimList_uppercase_of_trimmed (h : trimList isWhiteSpace l = l) :
    trimList isWhiteSpace (Unicode.uppercase l) = Unicode.uppercase l := by
  refine trimList_of_ends h ?_ ?_ ?_
  · rintro rfl
    rfl
  · rintro c rest rfl hc
    exact ⟨_, _, uppercase_cons c rest, uppercaseChar_ne_nil c,
      fun d hd => not_isWhiteSpace_of_mem_uppercaseChar hc hd⟩
  · rintro rest c rfl hc
    have hone : Unicode.uppercase [c] = uppercaseChar c := List.flatMap_singleton ..
    refine ⟨uppercaseChar c, Unicode.uppercase rest, ?_, uppercaseChar_ne_nil c,
      fun d hd => not_isWhiteSpace_of_mem_uppercaseChar hc hd⟩
    rw [uppercase_append, hone]

theorem trimList_uppercase (l : List Char) : trimList isWhiteSpace (Unicode.uppercase l) =
    Unicode.uppercase (trimList isWhiteSpace l) := by
  obtain ⟨b, hl, hb⟩ := exists_trimList isWhiteSpace l
  have hbefore : ∀ c ∈ l.takeWhile isWhiteSpace, isWhiteSpace c := fun c hc => List.mem_takeWhile_imp hc
  have hcut := congrArg Unicode.uppercase hl
  rw [uppercase_append, uppercase_append, uppercase_blank hbefore, uppercase_blank hb] at hcut
  rw [hcut, trimList_append hbefore hb, trimList_uppercase_of_trimmed (trimList_trimList _ l)]

theorem trim_uppercase (s : String) : trim (uppercase s) = uppercase (trim s) := by
  apply String.toList_injective
  rw [toList_trim, uppercase, uppercase, String.toList_ofList, String.toList_ofList, toList_trim,
    trimList_uppercase]

end Parlance.Text
