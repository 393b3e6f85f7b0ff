import Parlance.Proofs.Text.Lengths
import Parlance.Proofs.Unicode.Hangul

/-!
Classes of characters and folding. Main statements: `Reflected.of_fold_lowercase`, that of a character
outside certain classes folding leaves one outside the class, so that a text belongs to the class where
its folded form does; and `FixedChecks.fold_lowercase`, that other classes are left alone.
-/

namespace Parlance.Unicode

open Text

-- the table is too long to be looked into
attribute [local irreducible] decompositionSteps

variable {c : Char} {l : List Char} {n depth : Nat}

/-! The table of decompositions. -/

/-- What decomposes and what it decomposes to lies before this code point. -/
def decompositionStop : Nat := 0x30000

/-- The bits of the code points that the table tells of: few of all the bits, to compute with. -/
def lowBits (bits : Nat) : Nat :=
  bits % 2 ^ decompositionStop

theorem testBit_lowBits (bits : Nat) {e : Nat × List Nat} (he : e ∈ decompositionSteps.toList) :
    ∀ m ∈ e.1 :: e.2, (lowBits bits).testBit m = bits.testBit m := by
  have hbelow : decompositionSteps.toList.all fun e =>
      (e.1 :: e.2).all fun m => decide (m < decompositionStop) := by
    decide +kernel
  intro m hm
  have hlt := List.all_eq_true.1 (List.all_eq_true.1 hbelow e he) m hm
  rw [lowBits, Nat.testBit_mod_two_pow, hlt, Bool.true_and]

/-- What is asked of the entries of the table need only be asked of their bits. -/
theorem all_lowBits (bits : Nat) (p : Bool → List Bool → Bool) :
    (decompositionSteps.toList.all fun e =>
        p ((lowBits bits).testBit e.1) (e.2.map (lowBits bits).testBit)) =
      decompositionSteps.toList.all fun e => p (bits.testBit e.1) (e.2.map bits.testBit) := by
  rw [Bool.eq_iff_iff, List.all_eq_true, List.all_eq_true]
  refine forall₂_congr fun e he => ?_
  obtain ⟨hfirst, hrest⟩ := List.forall_mem_cons.1 (testBit_lowBits bits he)
  rw [hfirst, List.map_congr_left hrest]

/-- What each step keeps is kept by following the steps. -/
theorem of_mem_decomposeWithin {P : Nat → Prop}
    (hstep : ∀ n parts, decompositionSteps.at? n = some parts → P n → ∀ m ∈ parts, P m) (hn : P n) :
    ∀ m ∈ decomposeWithin depth n, P m := by
  induction depth generalizing n with
  | zero => exact List.forall_mem_singleton.2 hn
  | succ depth ih =>
    intro m hm
    rw [decomposeWithin_succ] at hm
    split at hm
    · rename_i parts hparts
      obtain ⟨k, hk, hm⟩ := List.mem_flatMap.1 hm
      exact ih (hstep n parts hparts hn k hk) m hm
    · rwa [List.mem_singleton.1 hm]

theorem decomposeChar_of_leaf (hleaf : decompositionSteps.at? c.toNat = none) (h : ¬Syllable c) :
    decomposeChar c = [c] := by
  unfold decomposeChar
  split
  · rfl
  · rw [decompose?_eq_none h]
    dsimp only
    rw [decomposeWithin_succ, hleaf]
    exact congrArg (fun d => [d]) (Char.ofNat_toNat c)

/-! Classes that folding reflects. -/

/-- What is checked of the code points of a class. Case and Hangul are reflected for one of two reasons:
what is changed belongs to the class, or what it is changed to does not. -/
structure ReflectChecks (bits : Nat) : Prop where
  null : ¬bits.testBit 0
  marks : markBits &&& bits = markBits
  case : lowercaseShifts.sources &&& bits = lowercaseShifts.sources ∨
    lowercaseShifts.images &&& bits = 0
  dotted : bits.testBit 'İ'.toNat ∨ ¬bits.testBit 'i'.toNat
  sigma : bits.testBit 'Σ'.toNat ∨ ¬bits.testBit 'σ'.toNat ∧ ¬bits.testBit 'ς'.toNat
  hangul : hangulBits &&& bits = hangulBits ∨ hangulBits &&& bits = 0
  /-- What decomposes belongs to the class, or one of its parts does not. -/
  steps : decompositionSteps.toList.all fun e => bits.testBit e.1 || e.2.any fun n => !bits.testBit n

instance (bits : Nat) : Decidable (ReflectChecks bits) :=
  have hsteps : (decompositionSteps.toList.all fun e =>
        (lowBits bits).testBit e.1 || e.2.any fun n => !(lowBits bits).testBit n) =
      decompositionSteps.toList.all fun e => bits.testBit e.1 || e.2.any fun n => !bits.testBit n := by
    simpa [List.any_map, Function.comp_def] using
      all_lowBits bits fun first parts => first || parts.any (!·)
  decidable_of_iff (_ ∧ _ ∧ _ ∧ _ ∧ _ ∧ _ ∧ _)
    ⟨fun ⟨null, marks, case, dotted, sigma, hangul, steps⟩ =>
        ⟨null, marks, case, dotted, sigma, hangul, hsteps ▸ steps⟩,
      fun h => ⟨h.null, h.marks, h.case, h.dotted, h.sigma, h.hangul, hsteps ▸ h.steps⟩⟩

/-- A class with the bits of its code points, which folding reflects. -/
structure Reflected (p : Char → Bool) (bits : Nat) : Prop where
  testBit : ∀ c : Char, bits.testBit c.toNat ↔ p c
  checks : ReflectChecks bits

namespace Reflected

variable {p : Char → Bool} {bits : Nat}

theorem not_ofNat (h : Reflected p bits) (hn : ¬bits.testBit n) : ¬p (Char.ofNat n) := by
  rw [← h.testBit]
  rcases toNat_ofNat n with hchar | hzero
  · rwa [hchar]
  · rw [hzero]
    exact h.checks.null

theorem of_lowercaseChar (h : Reflected p bits) (hc : ∀ d ∈ lowercaseChar c, p d) : p c := by
  by_cases hdotted : c = 'İ'
  · subst hdotted
    rw [lowercaseChar, if_neg (by decide), if_pos rfl] at hc
    have hi : p 'i' := hc 'i' List.mem_cons_self
    rcases h.checks.dotted with hin | hout
    · exact (h.testBit _).1 hin
    · exact absurd ((h.testBit _).2 hi) hout
  · rw [lowercaseChar_of_ne hdotted] at hc
    have hd := hc _ (List.mem_singleton_self _)
    cases hshift : lowercaseShifts.shift? c.toNat with
    | none =>
      rw [hshift, Option.getD_none, Char.ofNat_toNat] at hd
      exact hd
    | some n =>
      rw [hshift, Option.getD_some] at hd
      obtain ⟨hsource, himage⟩ := testBit_of_shift? hshift
      rcases h.checks.case with hall | hnone
      · exact (h.testBit c).1 (testBit_of_and_eq_left hall hsource)
      · exact absurd hd (h.not_ofNat (not_testBit_of_and_eq_zero hnone himage))

theorem of_lowercaseFrom (h : Reflected p bits) {casedBefore : Bool}
    (hl : ∀ d ∈ lowercaseFrom casedBefore l, p d) : ∀ c ∈ l, p c := by
  induction l generalizing casedBefore with
  | nil => exact List.forall_mem_nil _
  | cons c l ih =>
    rw [lowercaseFrom, List.forall_mem_append] at hl
    obtain ⟨hfirst, hrest⟩ := hl
    refine List.forall_mem_cons.2 ⟨?_, ih hrest⟩
    split at hfirst
    · rename_i hsigma
      rw [hsigma, ← h.testBit]
      rcases h.checks.sigma with hin | ⟨hmiddle, hfinal⟩
      · exact hin
      · have hlower := hfirst _ (List.mem_singleton_self _)
        rw [← h.testBit] at hlower
        split at hlower
        · exact absurd hlower hfinal
        · exact absurd hlower hmiddle
    · exact h.of_lowercaseChar hfirst

theorem of_decomposeWithin (h : Reflected p bits)
    (hn : ∀ m ∈ decomposeWithin depth n, p (Char.ofNat m)) : bits.testBit n := by
  induction depth generalizing n with
  | zero =>
    by_contra hmiss
    exact h.not_ofNat hmiss (hn n (List.mem_singleton_self n))
  | succ depth ih =>
    rw [decomposeWithin_succ] at hn
    split at hn
    · rename_i parts hparts
      have hstep := List.all_eq_true.1 h.checks.steps _ (mem_of_at? hparts)
      rw [Bool.or_eq_true] at hstep
      rcases hstep with hin | hout
      · exact hin
      · obtain ⟨m, hm, hmiss⟩ := List.any_eq_true.1 hout
        have hpart : bits.testBit m := ih fun k hk => hn k (List.mem_flatMap.2 ⟨m, hm, hk⟩)
        simp [hpart] at hmiss
    · by_contra hmiss
      exact h.not_ofNat hmiss (hn n (List.mem_singleton_self n))

/-- A character of Hangul is in the class, or no other of Hangul is. -/
theorem of_hangul (h : Reflected p bits) {d : Char} (hc : hangulBits.testBit c.toNat)
    (hd : hangulBits.testBit d.toNat) (hp : p d) : p c := by
  rw [← h.testBit] at hp ⊢
  rcases h.checks.hangul with hall | hnone
  · exact testBit_of_and_eq_left hall hc
  · exact absurd hp (not_testBit_of_and_eq_zero hnone hd)

theorem of_decomposeChar (h : Reflected p bits) (hc : ∀ d ∈ decomposeChar c, p d) : p c := by
  by_cases hsyllable : Syllable c
  · obtain ⟨d, tail, hletters, -, hhangul, -⟩ := hsyllable.exists_letters
    rw [hletters] at hc
    exact h.of_hangul hsyllable.testBit (hhangul d List.mem_cons_self) (hc d List.mem_cons_self)
  · unfold decomposeChar at hc
    split at hc
    · exact hc c (List.mem_singleton_self c)
    · rw [decompose?_eq_none hsyllable] at hc
      exact (h.testBit c).1 (h.of_decomposeWithin fun m hm => hc _ (List.mem_map_of_mem hm))

theorem of_go (h : Reflected p bits) (hl : ∀ d ∈ composeHangul.go c l, p d) :
    ∀ d ∈ c :: l, p d := by
  induction l generalizing c with
  | nil => exact hl
  | cons e l ih =>
    rw [composeHangul.go] at hl
    split at hl
    · rename_i n hn
      obtain ⟨hc, he, hsyllable⟩ := hangul_of_compose? hn
      obtain ⟨hjoined, hrest⟩ := List.forall_mem_cons.1 (ih hl)
      have hletter : p c := h.of_hangul hc hsyllable.testBit hjoined
      have htail : p e := h.of_hangul he hsyllable.testBit hjoined
      exact List.forall_mem_cons.2 ⟨hletter, List.forall_mem_cons.2 ⟨htail, hrest⟩⟩
    · obtain ⟨hc, hrest⟩ := List.forall_mem_cons.1 hl
      exact List.forall_mem_cons.2 ⟨hc, ih hrest⟩

theorem of_composeHangul (h : Reflected p bits) (hl : ∀ d ∈ composeHangul l, p d) :
    ∀ c ∈ l, p c := by
  cases l with
  | nil => exact List.forall_mem_nil _
  | cons c l => exact h.of_go hl

theorem of_stripMarks (h : Reflected p bits) (hl : ∀ d ∈ stripMarks l, p d) : ∀ c ∈ l, p c := by
  intro c hc
  have hkept := h.of_composeHangul hl
  apply h.of_decomposeChar
  intro d hd
  by_cases hmark : isMark d
  · exact (h.testBit d).1 (testBit_of_and_eq_left h.checks.marks ((testBit_markBits d).2 hmark))
  · apply hkept
    rw [List.mem_filter]
    exact ⟨List.mem_flatMap.2 ⟨c, hc, hd⟩, by simpa using hmark⟩

/-- A text whose folded lower case lies in a class that folding reflects lies in it itself. -/
theorem of_fold_lowercase (h : Reflected p bits) {s : String}
    (hs : ∀ d ∈ (fold (Text.lowercase s)).toList, p d) : ∀ c ∈ s.toList, p c := by
  rw [fold, String.toList_ofList, Text.lowercase, String.toList_ofList] at hs
  exact h.of_lowercaseFrom (h.of_stripMarks (h.of_lowercaseFrom hs))

end Reflected

/-! Classes that folding leaves alone. -/

/-- What is checked of the code points of a class that nothing is done to. -/
structure FixedChecks (bits : Nat) : Prop where
  case : lowercaseShifts.sources &&& bits = 0
  dotted : ¬bits.testBit 'İ'.toNat
  marks : markBits &&& bits = 0
  hangul : hangulBits &&& bits = 0
  steps : decompositionSteps.toList.all fun e => !bits.testBit e.1

instance (bits : Nat) : Decidable (FixedChecks bits) :=
  have hsteps := all_lowBits bits fun first _ => !first
  decidable_of_iff (_ ∧ _ ∧ _ ∧ _ ∧ _)
    ⟨fun ⟨case, dotted, marks, hangul, steps⟩ => ⟨case, dotted, marks, hangul, hsteps ▸ steps⟩,
      fun h => ⟨h.case, h.dotted, h.marks, h.hangul, hsteps ▸ h.steps⟩⟩

namespace FixedChecks

variable {bits : Nat}

theorem lowered (h : FixedChecks bits) (hc : bits.testBit c.toNat) : Lowered c := by
  apply lowered_of_shift?_eq_none
  · rintro rfl
    exact h.dotted hc
  · exact shift?_eq_none_of_testBit h.case hc

theorem not_testBit_hangulBits (h : FixedChecks bits) (hc : bits.testBit n) :
    ¬hangulBits.testBit n := by
  intro hhangul
  exact not_testBit_of_and_eq_zero h.hangul hhangul hc

theorem decomposeChar_eq (h : FixedChecks bits) (hc : bits.testBit c.toNat) :
    decomposeChar c = [c] := by
  have hsyllable : ¬Syllable c := fun hsyllable => h.not_testBit_hangulBits hc hsyllable.testBit
  have hleaf : decompositionSteps.at? c.toNat = none := by
    rw [Option.eq_none_iff_forall_ne_some]
    intro parts hparts
    have hmiss := List.all_eq_true.1 h.steps _ (mem_of_at? hparts)
    simp [hc] at hmiss
  exact decomposeChar_of_leaf hleaf hsyllable

theorem composeHangul_eq (h : FixedChecks bits) (hl : ∀ c ∈ l, bits.testBit c.toNat) :
    composeHangul l = l := by
  apply composeHangul_of_apart
  apply List.Pairwise.isChain
  apply List.pairwise_of_forall_mem_list
  intro c hc d _
  exact apart_of_not_hangul (.inl (h.not_testBit_hangulBits (hl c hc)))

theorem stripMarks_eq (h : FixedChecks bits) (hl : ∀ c ∈ l, bits.testBit c.toNat) :
    stripMarks l = l := by
  have hdecomposed : l.flatMap decomposeChar = l := by
    rw [List.flatMap_congr fun c hc => h.decomposeChar_eq (hl c hc), List.flatMap_singleton']
  have hunmarked : l.filter (fun c => !isMark c) = l := by
    rw [List.filter_eq_self]
    intro c hc
    rw [Bool.not_eq_true', Bool.eq_false_iff, ne_eq, ← testBit_markBits]
    intro hmark
    exact not_testBit_of_and_eq_zero h.marks hmark (hl c hc)
  rw [stripMarks, hdecomposed, hunmarked, h.composeHangul_eq hl]

theorem fold_lowercase (h : FixedChecks bits) {s : String}
    (hs : ∀ c ∈ s.toList, bits.testBit c.toNat) : fold (Text.lowercase s) = s := by
  have hlowered : ∀ c ∈ s.toList, Lowered c := fun c hc => h.lowered (hs c hc)
  rw [fold, Text.lowercase, String.toList_ofList, lowercase_of_lowered hlowered, h.stripMarks_eq hs,
    lowercase_of_lowered hlowered, String.ofList_toList]

end FixedChecks

end Parlance.Unicode
