import Mathlib.Data.List.Sort
import Parlance.Proofs.Text.Bare

/-!
Folding does not depend on case. Main statement: `uncased_lowercase`, that a text and its lower case are
folded to one text, but for the forms of a sigma.
-/

namespace Parlance.Unicode

open Text

-- the tables are too long to be looked into
attribute [local irreducible] decompositionSteps lowercaseShifts

variable {c d : Char} {l : List Char} {n m depth : Nat} {parts : List Nat}

/-- A sigma as in the middle of a word. -/
def medial (c : Char) : Char :=
  if c = 'ς' then 'σ' else c

/-- A folded text with all sigmas as in the middle of words. -/
def uncased (l : List Char) : List Char :=
  (Unicode.lowercase (stripMarks l)).map medial

/-! The tables together. -/

/-- A code point in lower case, by the table. -/
def lowerPoint (n : Nat) : Nat :=
  (lowercaseShifts.shift? n).getD n

/-- The capitals that the table decomposes. -/
def capitalSteps : List (Nat × List Nat) :=
  decompositionSteps.toList.filter fun e => lowercaseShifts.sources.testBit e.1

/-- What the table decomposes of the images of capitals. -/
def smallSteps : List (Nat × List Nat) :=
  decompositionSteps.toList.filter fun e => lowercaseShifts.images.testBit e.1

/-- The signs for units, whose letters come in lower case by other steps than their own. -/
def unitSigns : List Nat :=
  [0x2126, 0x212A, 0x212B]

/-- The steps of the capitals in lower case, by their code points. -/
def loweredSteps : List (Nat × List Nat) :=
  ((capitalSteps.filter fun e => !unitSigns.contains e.1).map fun e =>
    (lowerPoint e.1, e.2.map lowerPoint)).insertionSort fun d e => d.1 ≤ e.1

/-- What is checked of the tables together. -/
structure StepChecks : Prop where
  steps : loweredSteps.isSublist smallSteps
  /-- Nothing decomposes to a sign for a unit. -/
  parts : decompositionSteps.toList.all fun e => e.2.all fun n => !unitSigns.contains n
  valid_parts : decompositionSteps.toList.all fun e => e.2.all Nat.isValidChar
  valid_images : lowercaseShifts.images &&& (intervalBits 0 0xD800 ||| intervalBits 0xE000 0x110000) =
    lowercaseShifts.images
  sources_marks : lowercaseShifts.sources &&& markBits = 0
  sources_hangul : lowercaseShifts.sources &&& hangulBits = 0

theorem stepChecks : StepChecks := by
  constructor <;> decide +kernel

theorem lowerPoint_of_none (h : lowercaseShifts.shift? n = none) : lowerPoint n = n := by
  rw [lowerPoint, h, Option.getD_none]

theorem lowerPoint_of_some (h : lowercaseShifts.shift? n = some m) : lowerPoint n = m := by
  rw [lowerPoint, h, Option.getD_some]

theorem lowerPoint_lowerPoint (n : Nat) : lowerPoint (lowerPoint n) = lowerPoint n := by
  cases h : lowercaseShifts.shift? n with
  | none => rw [lowerPoint_of_none h, lowerPoint_of_none h]
  | some m =>
    rw [lowerPoint_of_some h]
    exact lowerPoint_of_none (shift?_of_shift? h).1

theorem isValidChar_toNat (c : Char) : c.toNat.isValidChar :=
  c.valid

theorem isValidChar_of_shift? (h : lowercaseShifts.shift? n = some m) : m.isValidChar := by
  have hvalid := testBit_of_and_eq_left stepChecks.valid_images (testBit_of_shift? h).2
  rw [Nat.testBit_or, Bool.or_eq_true, testBit_intervalBits, testBit_intervalBits] at hvalid
  unfold Nat.isValidChar
  omega

/-- What the lower case of a code point decomposes to in one step. -/
theorem at?_lowerPoint (hn : n ∉ unitSigns) (h : decompositionSteps.at? n = some parts) :
    decompositionSteps.at? (lowerPoint n) = some (parts.map lowerPoint) ∨
      lowercaseShifts.shift? n = none := by
  cases hshift : lowercaseShifts.shift? n with
  | none => exact .inr rfl
  | some m =>
    have hcapital : (n, parts) ∈ capitalSteps :=
      List.mem_filter.2 ⟨mem_of_at? h, (testBit_of_shift? hshift).1⟩
    have hlowered : (lowerPoint n, parts.map lowerPoint) ∈ loweredSteps :=
      (List.mem_insertionSort _).2 (List.mem_map_of_mem
        (List.mem_filter.2 ⟨hcapital, by simpa using hn⟩))
    have hsmall := (List.isSublist_iff_sublist.1 stepChecks.steps).subset hlowered
    exact .inl (at?_of_mem (increasing_of_increases bareChecks.increases) (List.mem_filter.1 hsmall).1)

/-- The lower case of a code point decomposes to the lower case of what the code point decomposes to. -/
theorem map_lowerPoint_decomposeWithin (hn : n ∉ unitSigns) :
    (decomposeWithin depth (lowerPoint n)).map lowerPoint = (decomposeWithin depth n).map lowerPoint := by
  induction depth generalizing n with
  | zero => exact congrArg (fun k => [k]) (lowerPoint_lowerPoint n)
  | succ depth ih =>
    cases hstep : decompositionSteps.at? n with
    | none =>
      have himage : decompositionSteps.at? (lowerPoint n) = none := by
        cases hshift : lowercaseShifts.shift? n with
        | none => rwa [lowerPoint_of_none hshift]
        | some m =>
          rw [lowerPoint_of_some hshift]
          exact leaf_of_shift? hstep hshift
      rw [decomposeWithin_succ, decomposeWithin_succ, hstep, himage]
      dsimp only
      rw [List.map_singleton, List.map_singleton, lowerPoint_lowerPoint]
    | some parts =>
      rcases at?_lowerPoint hn hstep with himage | hnone
      · have hparts : ∀ k ∈ parts, (decomposeWithin depth (lowerPoint k)).map lowerPoint =
            (decomposeWithin depth k).map lowerPoint := by
          intro k hk
          have hsign := List.all_eq_true.1 (List.all_eq_true.1 stepChecks.parts _ (mem_of_at? hstep)) k hk
          exact ih (by simpa using hsign)
        rw [decomposeWithin_succ, decomposeWithin_succ, hstep, himage]
        dsimp only
        rw [List.flatMap_map, List.map_flatMap, List.map_flatMap]
        exact List.flatMap_congr hparts
      · rw [lowerPoint_of_none hnone]

theorem isValidChar_of_mem_decomposeWithin (hn : n.isValidChar) (hm : m ∈ decomposeWithin depth n) :
    m.isValidChar := by
  refine of_mem_decomposeWithin (fun n parts hparts _ k hk => ?_) hn m hm
  have hvalid := List.all_eq_true.1 (List.all_eq_true.1 stepChecks.valid_parts _ (mem_of_at? hparts)) k hk
  simpa using hvalid

/-! Letters. -/

/-- A character other than `İ` in lower case, a sigma as in the middle of a word. -/
def plainLower (c : Char) : Char :=
  medial (Char.ofNat (lowerPoint c.toNat))

/-- The letters of a character in lower case, without marks. -/
def plainLetters (c : Char) : List Char :=
  ((decomposeChar c).filter fun d => !isMark d).map plainLower

/-- What is checked of the characters that do not come in lower case step by step. -/
structure LetterChecks : Prop where
  exceptions : ('İ' :: unitSigns.map Char.ofNat).all fun c =>
    (lowercaseChar c).flatMap plainLetters == plainLetters c
  sigmas : plainLetters 'Σ' = ['σ'] ∧ plainLetters 'σ' = ['σ'] ∧ plainLetters 'ς' = ['σ']
  lower_sigma : plainLower 'Σ' = 'σ'

theorem letterChecks : LetterChecks := by
  constructor <;> decide +kernel

theorem isMark_ofNat_lowerPoint (h : n.isValidChar) :
    isMark (Char.ofNat (lowerPoint n)) = isMark (Char.ofNat n) := by
  cases hshift : lowercaseShifts.shift? n with
  | none => rw [lowerPoint_of_none hshift]
  | some m =>
    obtain ⟨hsource, himage⟩ := testBit_of_shift? hshift
    have hcapital : ¬isMark (Char.ofNat n) := by
      rw [← testBit_markBits, toNat_ofNat_of_isValidChar h]
      exact not_testBit_of_and_eq_zero stepChecks.sources_marks hsource
    have hsmall : ¬isMark (Char.ofNat m) := by
      rw [← testBit_markBits, toNat_ofNat_of_isValidChar (isValidChar_of_shift? hshift)]
      exact not_testBit_of_and_eq_zero bareChecks.mark_images himage
    rw [lowerPoint_of_some hshift, Bool.eq_false_iff.2 hsmall, Bool.eq_false_iff.2 hcapital]

/-- The letters of code points depend on the lower case of these alone. -/
theorem filter_map_plainLower {points : List Nat} (h : ∀ n ∈ points, n.isValidChar) :
    ((points.map Char.ofNat).filter fun d => !isMark d).map plainLower =
      (((points.map lowerPoint).map Char.ofNat).filter fun d => !isMark d).map medial := by
  induction points with
  | nil => rfl
  | cons n points ih =>
    obtain ⟨hn, hrest⟩ := List.forall_mem_cons.1 h
    have hlower : plainLower (Char.ofNat n) = medial (Char.ofNat (lowerPoint n)) := by
      rw [plainLower, toNat_ofNat_of_isValidChar hn]
    simp only [List.map_cons, List.filter_cons, isMark_ofNat_lowerPoint hn]
    split
    · rw [List.map_cons, List.map_cons, hlower, ih hrest]
    · exact ih hrest

/-- A character has the letters of its lower case. -/
theorem flatMap_plainLetters_lowercaseChar (c : Char) :
    (lowercaseChar c).flatMap plainLetters = plainLetters c := by
  by_cases hexception : c ∈ 'İ' :: unitSigns.map Char.ofNat
  · exact beq_iff_eq.1 (List.all_eq_true.1 letterChecks.exceptions c hexception)
  · rw [List.mem_cons, not_or] at hexception
    obtain ⟨hdotted, hsign⟩ := hexception
    rw [lowercaseChar_of_ne hdotted, List.flatMap_singleton]
    cases hshift : lowercaseShifts.shift? c.toNat with
    | none => rw [Option.getD_none, Char.ofNat_toNat]
    | some m =>
      obtain ⟨hsource, himage⟩ := testBit_of_shift? hshift
      have hm : (Char.ofNat m).toNat = m := toNat_ofNat_of_isValidChar (isValidChar_of_shift? hshift)
      have hcapital : ¬Syllable c := not_syllable_of_testBit stepChecks.sources_hangul hsource
      have hsmall : ¬Syllable (Char.ofNat m) :=
        not_syllable_of_testBit bareChecks.hangul_images (hm.symm ▸ himage)
      have hpoint : c.toNat ∉ unitSigns := by
        intro hmem
        exact hsign (List.mem_map.2 ⟨_, hmem, Char.ofNat_toNat c⟩)
      have hvalid : ∀ k ∈ decomposeWithin 3 c.toNat, k.isValidChar :=
        fun k hk => isValidChar_of_mem_decomposeWithin (isValidChar_toNat c) hk
      have hvalid' : ∀ k ∈ decomposeWithin 3 m, k.isValidChar :=
        fun k hk => isValidChar_of_mem_decomposeWithin (isValidChar_of_shift? hshift) hk
      have hsame : (decomposeWithin 3 (lowerPoint c.toNat)).map lowerPoint =
          (decomposeWithin 3 c.toNat).map lowerPoint := map_lowerPoint_decomposeWithin hpoint
      rw [lowerPoint_of_some hshift] at hsame
      rw [Option.getD_some, plainLetters, plainLetters, decomposeChar_eq hcapital, decomposeChar_eq hsmall, hm,
        filter_map_plainLower hvalid, filter_map_plainLower hvalid', hsame]

theorem flatMap_plainLetters_lowercaseFrom (casedBefore : Bool) (l : List Char) :
    (lowercaseFrom casedBefore l).flatMap plainLetters = l.flatMap plainLetters := by
  induction l generalizing casedBefore with
  | nil => rfl
  | cons c l ih =>
    obtain ⟨hcapital, hmiddle, hfinal⟩ := letterChecks.sigmas
    rw [lowercaseFrom, List.flatMap_append, ih, List.flatMap_cons]
    split
    · rename_i hsigma
      rw [hsigma, hcapital]
      split
      · rw [List.flatMap_singleton, hfinal]
      · rw [List.flatMap_singleton, hmiddle]
    · rw [flatMap_plainLetters_lowercaseChar]

/-! Texts. -/

theorem plainLower_of_hangul (h : hangulBits.testBit c.toNat ∨ hangulBits.testBit (plainLower c).toNat) :
    plainLower c = c := by
  cases hshift : lowercaseShifts.shift? c.toNat with
  | none =>
    rw [plainLower, lowerPoint_of_none hshift, Char.ofNat_toNat] at h ⊢
    rw [medial] at h ⊢
    split
    · rename_i hfinal
      rw [if_pos hfinal, hfinal] at h
      exact absurd h (by decide)
    · rfl
  | some m =>
    obtain ⟨hsource, himage⟩ := testBit_of_shift? hshift
    have hm : (Char.ofNat m).toNat = m := toNat_ofNat_of_isValidChar (isValidChar_of_shift? hshift)
    rw [plainLower, lowerPoint_of_some hshift] at h
    rcases h with h | h
    · exact absurd h (not_testBit_of_and_eq_zero stepChecks.sources_hangul hsource)
    · rw [medial] at h
      split at h
      · exact absurd h (by decide)
      · rw [hm] at h
        exact absurd h (not_testBit_of_and_eq_zero bareChecks.hangul_images himage)

theorem map_medial_lowercaseFrom (h : ∀ c ∈ l, c ≠ 'İ') (casedBefore : Bool) :
    (lowercaseFrom casedBefore l).map medial = l.map plainLower := by
  induction l generalizing casedBefore with
  | nil => rfl
  | cons c l ih =>
    obtain ⟨hc, hl⟩ := List.forall_mem_cons.1 h
    rw [lowercaseFrom, List.map_append, ih hl, List.map_cons]
    split
    · rename_i hsigma
      rw [hsigma, letterChecks.lower_sigma]
      split <;> rfl
    · rw [lowercaseChar_of_ne hc]
      rfl

theorem uncased_eq (l : List Char) : uncased l = composeHangul (l.flatMap plainLetters) := by
  have hdotted : ∀ c ∈ stripMarks l, c ≠ 'İ' := by
    rintro _ hc rfl
    exact exceptionChecks.dotted ((bare_stripMarks l).settled _ hc).leaf
  have hletters : l.flatMap plainLetters =
      ((l.flatMap decomposeChar).filter fun d => !isMark d).map plainLower := by
    rw [List.filter_flatMap, List.map_flatMap]
    rfl
  rw [uncased, Unicode.lowercase, map_medial_lowercaseFrom hdotted, stripMarks, hletters,
    composeHangul_map fun _ => plainLower_of_hangul]

/-- A text and its lower case are folded to one text, but for the forms of a sigma. -/
theorem uncased_lowercase (l : List Char) : uncased (Unicode.lowercase l) = uncased l := by
  rw [uncased_eq, uncased_eq, Unicode.lowercase, flatMap_plainLetters_lowercaseFrom]

theorem map_medial_fold (s : String) : (fold s).toList.map medial = uncased s.toList := by
  rw [fold, String.toList_ofList]
  rfl

theorem uncased_fold_lowercase (s : String) :
    uncased (fold (Text.lowercase s)).toList = uncased s.toList := by
  rw [← map_medial_fold, fold_fold, map_medial_fold, Text.lowercase, String.toList_ofList, uncased_lowercase]

end Parlance.Unicode
