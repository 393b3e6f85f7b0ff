import Parlance.Proofs.Unicode.Lowering

/-!
Case conversion character by character. Main statements: `not_isWhiteSpace_of_mem_lowercaseChar` and
`not_isWhiteSpace_of_mem_uppercaseChar`, that neither case makes blanks, and `lowercase_uppercase_iff`,
that a text comes back from upper case exactly when each of its characters does where it stands.
-/

namespace Parlance.Unicode

variable {c d : Char} {l : List Char}

/-- What is checked of the tables entry by entry. -/
structure CaseChecks : Prop where
  lowercase_images : lowercaseShifts.images &&& blankBits = 0
  uppercase_images : uppercaseShifts.images &&& blankBits = 0
  expansions_ne_nil : ∀ e ∈ uppercaseExpansions.toList, e.2 ≠ []
  expansions_solid : ∀ e ∈ uppercaseExpansions.toList, ∀ n ∈ e.2, ¬isWhiteSpace (Char.ofNat n)
  blank : ∀ r ∈ blankRanges, ∀ n ∈ List.range' r.1 (r.2 + 1 - r.1),
    uppercaseChar (Char.ofNat n) = [Char.ofNat n]
  ascii : ∀ n ∈ List.range 0x80,
    isWhiteSpace (Char.ofNat n).toUpper = isWhiteSpace (Char.ofNat n)
  dotted : uppercaseChar 'İ' = ['İ']
  /-- Where a stretch has a capital sigma among its images, it is that of a sigma. -/
  shifts_sigma : ∀ e ∈ uppercaseShifts.toList, e.2.image ≤ 'Σ'.toNat →
    e.1 + ('Σ'.toNat - e.2.image) ≤ e.2.last →
      Char.ofNat (e.1 + ('Σ'.toNat - e.2.image)) ∈ ['Σ', 'σ', 'ς']
  expansions_sigma : ∀ e ∈ uppercaseExpansions.toList, 'Σ' ∉ e.2.map Char.ofNat
  ascii_sigma : ∀ n ∈ List.range 0x80, (Char.ofNat n).toUpper ≠ 'Σ'

theorem caseChecks : CaseChecks := by
  constructor <;> decide +kernel

/-! Blanks. -/

theorem uppercaseChar_of_isWhiteSpace (h : isWhiteSpace c) : uppercaseChar c = [c] := by
  obtain ⟨r, hr, hlo, hhi⟩ := isWhiteSpace_iff.1 h
  have hblank := caseChecks.blank r hr c.toNat (List.mem_range'_1.2 (by omega))
  rwa [Char.ofNat_toNat] at hblank

theorem not_isWhiteSpace_of_mem_lowercaseChar (hc : ¬isWhiteSpace c) (hd : d ∈ lowercaseChar c) :
    ¬isWhiteSpace d := by
  unfold lowercaseChar at hd
  split at hd
  · rename_i hascii
    have hlower := (foldChecks.ascii c.toNat (List.mem_range.2 hascii)).1
    rw [Char.ofNat_toNat] at hlower
    rwa [List.mem_singleton.1 hd, hlower]
  · split at hd
    · simp only [List.mem_cons, List.not_mem_nil, or_false] at hd
      rcases hd with rfl | rfl <;> decide
    · split at hd
      · rw [List.mem_singleton.1 hd]
        exact not_isWhiteSpace_of_shift? caseChecks.lowercase_images ‹_›
      · rwa [List.mem_singleton.1 hd]

theorem not_isWhiteSpace_of_mem_uppercaseChar (hc : ¬isWhiteSpace c) (hd : d ∈ uppercaseChar c) :
    ¬isWhiteSpace d := by
  unfold uppercaseChar at hd
  split at hd
  · rename_i hascii
    have hupper := caseChecks.ascii c.toNat (List.mem_range.2 hascii)
    rw [Char.ofNat_toNat] at hupper
    rwa [List.mem_singleton.1 hd, hupper]
  · split at hd
    · obtain ⟨n, hn, rfl⟩ := List.mem_map.1 hd
      exact caseChecks.expansions_solid _ (mem_of_at? ‹_›) n hn
    · split at hd
      · rw [List.mem_singleton.1 hd]
        exact not_isWhiteSpace_of_shift? caseChecks.uppercase_images ‹_›
      · rwa [List.mem_singleton.1 hd]

example : uppercaseChar 'ß' = ['S', 'S'] := by
  decide +kernel

/-! Lengths. -/

theorem uppercaseChar_ne_nil (c : Char) : uppercaseChar c ≠ [] := by
  unfold uppercaseChar
  split
  · exact List.cons_ne_nil _ _
  · split
    · rw [ne_eq, List.map_eq_nil_iff]
      exact caseChecks.expansions_ne_nil _ (mem_of_at? ‹_›)
    · split <;> exact List.cons_ne_nil _ _

theorem length_lowercaseChar (h : c ≠ 'İ') : (lowercaseChar c).length = 1 := by
  rw [lowercaseChar_of_ne h, List.length_singleton]

theorem lowercaseChar_ne_nil (c : Char) : lowercaseChar c ≠ [] := by
  by_cases h : c = 'İ'
  · subst h
    decide
  · rw [← List.length_pos_iff, length_lowercaseChar h]
    exact Nat.one_pos

/-! Back from upper case. -/

/-- Whether the last character of a text, of those that case conversion does not look through, is
cased; `casedBefore` says it of what stands before the text. -/
def casedAfter (casedBefore : Bool) (l : List Char) : Bool :=
  l.foldl (fun cased c => if isCaseIgnorable c then cased else isCased c) casedBefore

/-- Lower case of a stretch with a text behind it. -/
def lowercaseWithin (casedBefore : Bool) (behind : List Char) : List Char → List Char
  | [] => []
  | c :: rest =>
    (if c = 'Σ' then [if casedBefore && !casedAhead (rest ++ behind) then 'ς' else 'σ']
      else lowercaseChar c) ++ lowercaseWithin (casedAfter casedBefore [c]) behind rest

/-- Lower case of a stretch between two texts. -/
def lowercaseBetween (before l behind : List Char) : List Char :=
  lowercaseWithin (casedAfter false before) behind l

/-- The lower case of a character where it stands is that of its upper case in the text in upper
case. -/
def ComesBack (before : List Char) (c : Char) (behind : List Char) : Prop :=
  lowercaseBetween (uppercase before) (uppercaseChar c) (uppercase behind) =
    lowercaseBetween before [c] behind

theorem casedAfter_append (casedBefore : Bool) (l r : List Char) :
    casedAfter casedBefore (l ++ r) = casedAfter (casedAfter casedBefore l) r :=
  List.foldl_append

theorem lowercaseFrom_append (casedBefore : Bool) (l r : List Char) :
    lowercaseFrom casedBefore (l ++ r) =
      lowercaseWithin casedBefore r l ++ lowercaseFrom (casedAfter casedBefore l) r := by
  induction l generalizing casedBefore with
  | nil => rfl
  | cons c l ih =>
    rw [List.cons_append, lowercaseFrom, lowercaseWithin, List.append_assoc]
    exact congrArg _ (ih _)

theorem lowercaseFrom_cons (casedBefore : Bool) (c : Char) (l : List Char) :
    lowercaseFrom casedBefore (c :: l) =
      lowercaseWithin casedBefore l [c] ++ lowercaseFrom (casedAfter casedBefore [c]) l :=
  lowercaseFrom_append casedBefore [c] l

theorem lowercaseFrom_append_singleton (casedBefore : Bool) (l : List Char) (c : Char) :
    lowercaseFrom casedBefore (l ++ [c]) =
      lowercaseWithin casedBefore [c] l ++ lowercaseWithin (casedAfter casedBefore l) [] [c] := by
  rw [lowercaseFrom_append, lowercaseFrom_cons, lowercaseFrom, List.append_nil]

theorem not_isWhiteSpace_of_mem_lowercaseWithin {casedBefore : Bool} {behind : List Char}
    (hc : ¬isWhiteSpace c) (hd : d ∈ lowercaseWithin casedBefore behind [c]) : ¬isWhiteSpace d := by
  rw [lowercaseWithin, lowercaseWithin, List.append_nil] at hd
  split at hd
  · split at hd <;> rw [List.mem_singleton.1 hd] <;> decide
  · exact not_isWhiteSpace_of_mem_lowercaseChar hc hd

theorem uppercase_cons (c : Char) (l : List Char) :
    uppercase (c :: l) = uppercaseChar c ++ uppercase l :=
  List.flatMap_cons

theorem uppercase_append (l r : List Char) : uppercase (l ++ r) = uppercase l ++ uppercase r :=
  List.flatMap_append

theorem length_lowercaseWithin_singleton (h : c ≠ 'İ') (casedBefore : Bool) (behind : List Char) :
    (lowercaseWithin casedBefore behind [c]).length = 1 := by
  rw [lowercaseWithin, lowercaseWithin, List.append_nil]
  split
  · rfl
  · exact length_lowercaseChar h

theorem length_le_lowercaseWithin (casedBefore : Bool) (behind l : List Char) :
    l.length ≤ (lowercaseWithin casedBefore behind l).length := by
  induction l generalizing casedBefore with
  | nil => exact Nat.zero_le _
  | cons c l ih =>
    have hrest := ih (casedAfter casedBefore [c])
    have hchar : 0 < (lowercaseChar c).length := List.length_pos_iff.2 (lowercaseChar_ne_nil c)
    rw [lowercaseWithin, List.length_append, List.length_cons]
    split
    · rw [List.length_singleton]
      omega
    · omega

theorem lowercaseWithin_ne_nil (casedBefore : Bool) (behind : List Char) (c : Char) :
    lowercaseWithin casedBefore behind [c] ≠ [] :=
  List.length_pos_iff.1 (length_le_lowercaseWithin casedBefore behind [c])

/-- No character has a longer lower case than its upper case has. -/
theorem length_lowercaseWithin_le (c : Char) (casedBefore casedBefore' : Bool)
    (behind behind' : List Char) : (lowercaseWithin casedBefore behind [c]).length ≤
      (lowercaseWithin casedBefore' behind' (uppercaseChar c)).length := by
  by_cases h : c = 'İ'
  · subst h
    rw [caseChecks.dotted]
    exact Nat.le_refl 2
  · have hupper : 0 < (uppercaseChar c).length := List.length_pos_iff.2 (uppercaseChar_ne_nil c)
    have hle := length_le_lowercaseWithin casedBefore' behind' (uppercaseChar c)
    rw [length_lowercaseWithin_singleton h]
    omega

theorem length_lowercaseFrom_le_uppercase (casedBefore casedBefore' : Bool) (l : List Char) :
    (lowercaseFrom casedBefore l).length ≤ (lowercaseFrom casedBefore' (uppercase l)).length := by
  induction l generalizing casedBefore casedBefore' with
  | nil => exact Nat.le_refl 0
  | cons c l ih =>
    rw [lowercaseFrom_cons, uppercase_cons, lowercaseFrom_append, List.length_append,
      List.length_append]
    exact Nat.add_le_add (length_lowercaseWithin_le c _ _ _ _) (ih _ _)

/-- Equal texts have equal parts where no part is shorter than its counterpart. -/
theorem append_eq_append_iff_of_length_le {a b x y : List Char} (h : b.length ≤ a.length)
    (h' : y.length ≤ x.length) : a ++ x = b ++ y ↔ a = b ∧ x = y := by
  constructor
  · intro he
    have hlen := congrArg List.length he
    rw [List.length_append, List.length_append] at hlen
    exact List.append_inj he (by omega)
  · rintro ⟨rfl, rfl⟩
    rfl

theorem lowercaseFrom_uppercase_iff (casedBefore casedBefore' : Bool) (l : List Char) :
    lowercaseFrom casedBefore' (uppercase l) = lowercaseFrom casedBefore l ↔
      ∀ before c behind, l = before ++ c :: behind →
        lowercaseWithin (casedAfter casedBefore' (uppercase before)) (uppercase behind)
          (uppercaseChar c) = lowercaseWithin (casedAfter casedBefore before) behind [c] := by
  induction l generalizing casedBefore casedBefore' with
  | nil => simp [uppercase, lowercaseFrom]
  | cons c l ih =>
    rw [uppercase_cons, lowercaseFrom_append, lowercaseFrom_cons, append_eq_append_iff_of_length_le
      (length_lowercaseWithin_le c _ _ _ _) (length_lowercaseFrom_le_uppercase _ _ l), ih]
    constructor
    · rintro ⟨hfirst, hrest⟩ before d behind hl
      cases before with
      | nil =>
        obtain ⟨rfl, rfl⟩ := List.cons.inj hl
        exact hfirst
      | cons b before =>
        obtain ⟨rfl, rfl⟩ := List.cons.inj hl
        have hd := hrest before d behind rfl
        rwa [← casedAfter_append, ← casedAfter_append, ← uppercase_cons] at hd
    · intro h
      refine ⟨h [] c l rfl, fun before d behind hl => ?_⟩
      have hd := h (c :: before) d behind (congrArg (c :: ·) hl)
      rwa [uppercase_cons, casedAfter_append, ← List.singleton_append (l := before),
        casedAfter_append] at hd

/-- A text comes back from upper case exactly when each of its characters does where it stands. -/
theorem lowercase_uppercase_iff (l : List Char) :
    lowercase (uppercase l) = lowercase l ↔
      ∀ before c behind, l = before ++ c :: behind → ComesBack before c behind :=
  lowercaseFrom_uppercase_iff false false l

/-! Characters that come back wherever they stand. -/

/-- A character other than a sigma whose upper case has its lower case. -/
def Returns (c : Char) : Prop :=
  c ∉ ['Σ', 'σ', 'ς'] ∧ (uppercaseChar c).flatMap lowercaseChar = lowercaseChar c

instance : DecidablePred Returns := fun c =>
  inferInstanceAs (Decidable (c ∉ ['Σ', 'σ', 'ς'] ∧ _))

/-- Only the sigmas become a capital sigma. -/
theorem sigma_not_mem_uppercaseChar (h : c ∉ ['Σ', 'σ', 'ς']) : 'Σ' ∉ uppercaseChar c := by
  intro hmem
  unfold uppercaseChar at hmem
  split at hmem
  · rename_i hascii
    have hne := caseChecks.ascii_sigma c.toNat (List.mem_range.2 hascii)
    rw [Char.ofNat_toNat] at hne
    exact hne (List.mem_singleton.1 hmem).symm
  · split at hmem
    · exact caseChecks.expansions_sigma _ (mem_of_at? ‹_›) hmem
    · split at hmem
      · rename_i n hn
        obtain ⟨e, he, hfirst, hlast, -, rfl⟩ := shift?_eq_some hn
        have hsigma : 'Σ'.toNat = e.2.image + (c.toNat - e.1) := by
          rw [List.mem_singleton.1 hmem]
          refine (toNat_ofNat _).resolve_right fun hzero => ?_
          rw [← List.mem_singleton.1 hmem] at hzero
          exact absurd hzero (by decide)
        have hc : c.toNat = e.1 + ('Σ'.toNat - e.2.image) := by omega
        apply h
        rw [← Char.ofNat_toNat c, hc]
        exact caseChecks.shifts_sigma e he (by omega) (by omega)
      · exact h (List.mem_singleton.1 hmem ▸ List.mem_cons_self)

theorem lowercaseWithin_of_not_mem (h : 'Σ' ∉ l) (casedBefore : Bool) (behind : List Char) :
    lowercaseWithin casedBefore behind l = l.flatMap lowercaseChar := by
  induction l generalizing casedBefore with
  | nil => rfl
  | cons c l ih =>
    rw [List.mem_cons, not_or] at h
    rw [lowercaseWithin, if_neg (Ne.symm h.1), ih h.2, List.flatMap_cons]

theorem Returns.comesBack (h : Returns c) (before behind : List Char) : ComesBack before c behind := by
  obtain ⟨hsigma, hreturn⟩ := h
  have hc : 'Σ' ∉ [c] := fun hmem => hsigma (List.mem_singleton.1 hmem ▸ List.mem_cons_self)
  rw [ComesBack, lowercaseBetween, lowercaseBetween,
    lowercaseWithin_of_not_mem (sigma_not_mem_uppercaseChar hsigma), lowercaseWithin_of_not_mem hc,
    hreturn, List.flatMap_singleton]

end Parlance.Unicode
