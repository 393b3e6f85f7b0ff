import Parlance.Proofs.Text.Spelling
import Parlance.Proofs.Text.Uncased
import Parlance.Proofs.Text.Unwords

/-!
Folding word by word. Main statements: `wordsOf_uncased`, that a folded text has the folded words of the
text, those of marks alone left out; and `filter_uncased`, that it has the digits, signs and points of the
text.
-/

namespace Parlance.Unicode

open Text

-- the tables are too long to be looked into
attribute [local irreducible] decompositionSteps lowercaseShifts

variable {p : Char → Bool} {bits : Nat} {c d : Char} {l x y : List Char} {n m depth : Nat}

/-! Classes that nothing else is folded to. -/

/-- What is checked of the code points of a class that nothing else is folded to. -/
structure OwnChecks (bits : Nat) : Prop where
  images : lowercaseShifts.images &&& bits = 0
  sigma : ¬bits.testBit 'σ'.toNat
  hangul : hangulBits &&& bits = 0
  steps : decompositionSteps.toList.all fun e => bits.testBit e.1 || e.2.all fun n => !bits.testBit n

/-- A class, with the bits of its code points, that nothing else is folded to. -/
structure Own (p : Char → Bool) (bits : Nat) : Prop where
  testBit : ∀ c : Char, bits.testBit c.toNat ↔ p c
  checks : OwnChecks bits

namespace Own

theorem not_of_hangul (h : Own p bits) (hc : hangulBits.testBit c.toNat) : ¬p c := by
  rw [← h.testBit]
  exact not_testBit_of_and_eq_zero h.checks.hangul hc

theorem not_testBit_of_mem_decomposeWithin (h : Own p bits) (hn : ¬bits.testBit n)
    (hm : m ∈ decomposeWithin depth n) : ¬bits.testBit m := by
  refine of_mem_decomposeWithin (P := fun n => ¬bits.testBit n) (fun n parts hparts hn k hk => ?_) hn m hm
  have hstep := List.all_eq_true.1 h.checks.steps _ (mem_of_at? hparts)
  rw [Bool.or_eq_true, or_iff_right hn] at hstep
  simpa using List.all_eq_true.1 hstep k hk

theorem not_of_mem_decomposeChar (h : Own p bits) (hc : ¬p c) (hd : d ∈ decomposeChar c) : ¬p d := by
  by_cases hsyllable : Syllable c
  · exact h.not_of_hangul (hsyllable.testBit_of_mem hd)
  · rw [decomposeChar_eq hsyllable] at hd
    obtain ⟨m, hm, rfl⟩ := List.mem_map.1 hd
    rw [← h.testBit] at hc ⊢
    rw [toNat_ofNat_of_isValidChar (isValidChar_of_mem_decomposeWithin (isValidChar_toNat c) hm)]
    exact h.not_testBit_of_mem_decomposeWithin hc hm

theorem not_plainLower (h : Own p bits) (hc : ¬p c) : ¬p (plainLower c) := by
  rw [plainLower, medial]
  split
  · rw [← h.testBit]
    exact h.checks.sigma
  · cases hshift : lowercaseShifts.shift? c.toNat with
    | none => rwa [lowerPoint_of_none hshift, Char.ofNat_toNat]
    | some m =>
      rw [lowerPoint_of_some hshift, ← h.testBit,
        toNat_ofNat_of_isValidChar (isValidChar_of_shift? hshift)]
      intro hbit
      exact not_testBit_of_and_eq_zero h.checks.images (testBit_of_shift? hshift).2 hbit

theorem not_of_mem_plainLetters (h : Own p bits) (hc : ¬p c) (hd : d ∈ plainLetters c) : ¬p d := by
  obtain ⟨e, he, rfl⟩ := List.mem_map.1 hd
  exact h.not_plainLower (h.not_of_mem_decomposeChar hc (List.mem_filter.1 he).1)

theorem filter_go (h : Own p bits) (c : Char) (l : List Char) :
    (composeHangul.go c l).filter p = (c :: l).filter p := by
  induction l generalizing c with
  | nil => rfl
  | cons d l ih =>
    rw [composeHangul.go]
    split
    · rename_i n hn
      obtain ⟨hc, hd, hjoined⟩ := hangul_of_compose? hn
      rw [ih, List.filter_cons_of_neg (h.not_of_hangul hjoined.testBit),
        List.filter_cons_of_neg (h.not_of_hangul hc), List.filter_cons_of_neg (h.not_of_hangul hd)]
    · rw [List.filter_cons, List.filter_cons, ih]

theorem filter_composeHangul (h : Own p bits) (l : List Char) :
    (composeHangul l).filter p = l.filter p := by
  cases l with
  | nil => rfl
  | cons c l => exact h.filter_go c l

/-- A folded text has what the text has of a class that stays as it is. -/
theorem filter_uncased (h : Own p bits) (hfixed : ∀ c, p c → plainLetters c = [c]) (l : List Char) :
    (uncased l).filter p = l.filter p := by
  have hletters : ∀ c ∈ l, (plainLetters c).filter p = [c].filter p := by
    intro c _
    by_cases hc : p c
    · rw [hfixed c hc]
    · rw [List.filter_cons_of_neg hc, List.filter_nil, List.filter_eq_nil_iff]
      exact fun d hd => h.not_of_mem_plainLetters hc hd
  rw [uncased_eq, h.filter_composeHangul, List.filter_flatMap, List.flatMap_congr hletters,
    ← List.filter_flatMap, List.flatMap_singleton']

theorem not_of_mem_uncased (h : Own p bits) (hl : ∀ c ∈ l, ¬p c) : ∀ d ∈ uncased l, ¬p d := by
  rw [← List.filter_eq_nil_iff, uncased_eq, h.filter_composeHangul, List.filter_eq_nil_iff]
  intro d hd
  obtain ⟨c, hc, hd⟩ := List.mem_flatMap.1 hd
  exact h.not_of_mem_plainLetters (hl c hc) hd

end Own

/-! Numerals. -/

/-- A character of a numeral: a digit, a sign or a point or comma. -/
def isNumeral (c : Char) : Bool :=
  c.isDigit || c = '.' || c = ',' || c = '-' || c = '+'

def numeralBits : Nat :=
  intervalBits 0x30 0x3A ||| charBits ['.', ',', '-', '+']

theorem testBit_numeralBits (c : Char) : numeralBits.testBit c.toNat ↔ isNumeral c := by
  have hdigit : c.isDigit ↔ 0x30 ≤ c.toNat ∧ c.toNat < 0x3A := by
    rw [Char.isDigit, Bool.and_eq_true, decide_eq_true_eq, decide_eq_true_eq, Nat.lt_succ_iff]
    exact Iff.rfl
  rw [numeralBits, Nat.testBit_or, Bool.or_eq_true, testBit_intervalBits, testBit_charBits, ← hdigit]
  simp only [isNumeral, List.mem_cons, List.not_mem_nil, or_false, Bool.or_eq_true, decide_eq_true_eq, or_assoc]

/-- What is checked of the blanks, and of the characters of numerals one by one. -/
structure PlainChecks : Prop where
  spaces : OwnChecks spaceBits
  space_marks : markBits &&& spaceBits = 0
  space_sources : lowercaseShifts.sources &&& spaceBits = 0
  /-- A blank decomposes to a blank, if at all. -/
  space_steps : decompositionSteps.toList.all fun e =>
    !spaceBits.testBit e.1 || e.2.length == 1 && e.2.all spaceBits.testBit
  numerals : OwnChecks numeralBits
  numeral : (List.range 0x80).all fun n =>
    !numeralBits.testBit n || plainLetters (Char.ofNat n) == [Char.ofNat n]

theorem plainChecks : PlainChecks := by
  constructor
  case spaces | numerals => constructor <;> decide +kernel
  all_goals decide +kernel

theorem own_isNumeral : Own isNumeral numeralBits :=
  ⟨testBit_numeralBits, plainChecks.numerals⟩

theorem own_isWhiteSpace : Own isWhiteSpace spaceBits :=
  ⟨testBit_spaceBits, plainChecks.spaces⟩

theorem plainLetters_of_isNumeral (h : isNumeral c) : plainLetters c = [c] := by
  have hbit := (testBit_numeralBits c).2 h
  have hascii : c.toNat < 0x80 := by
    rw [numeralBits, Nat.testBit_or, Bool.or_eq_true, testBit_intervalBits, testBit_charBits] at hbit
    rcases hbit with hdigit | hsign
    · omega
    · simp only [List.mem_cons, List.not_mem_nil, or_false] at hsign
      rcases hsign with rfl | rfl | rfl | rfl <;> decide
  have hcheck := List.all_eq_true.1 plainChecks.numeral c.toNat (List.mem_range.2 hascii)
  rw [hbit, Bool.not_true, Bool.false_or, beq_iff_eq, Char.ofNat_toNat] at hcheck
  exact hcheck

/-- A folded text has the characters of numerals that the text has. -/
theorem filter_uncased (l : List Char) : (uncased l).filter isNumeral = l.filter isNumeral :=
  own_isNumeral.filter_uncased (fun _ => plainLetters_of_isNumeral) l

/-! Words. -/

theorem exists_decomposeWithin_of_space (h : spaceBits.testBit n) :
    ∃ m, spaceBits.testBit m ∧ decomposeWithin depth n = [m] := by
  induction depth generalizing n with
  | zero => exact ⟨n, h, rfl⟩
  | succ depth ih =>
    rw [decomposeWithin_succ]
    split
    · rename_i parts hparts
      have hstep := List.all_eq_true.1 plainChecks.space_steps _ (mem_of_at? hparts)
      rw [h, Bool.not_true, Bool.false_or, Bool.and_eq_true, beq_iff_eq, List.length_eq_one_iff] at hstep
      obtain ⟨⟨k, hk⟩, hall⟩ := hstep
      dsimp only at hk hall
      rw [hk, List.all_cons, List.all_nil, Bool.and_true] at hall
      rw [hk, List.flatMap_singleton]
      exact ih hall
    · exact ⟨n, h, rfl⟩

/-- A blank is folded to a blank. -/
theorem exists_plainLetters_of_isWhiteSpace (h : isWhiteSpace c) :
    ∃ b, isWhiteSpace b ∧ plainLetters c = [b] := by
  have hspace := (testBit_spaceBits c).2 h
  have hsyllable : ¬Syllable c := fun hsyllable => own_isWhiteSpace.not_of_hangul hsyllable.testBit h
  obtain ⟨m, hm, hdecomposed⟩ : ∃ m, spaceBits.testBit m ∧ decomposeWithin 3 c.toNat = [m] :=
    exists_decomposeWithin_of_space hspace
  have hvalid : m.isValidChar := by
    have hmem : m ∈ decomposeWithin 3 c.toNat := hdecomposed ▸ List.mem_singleton_self m
    exact isValidChar_of_mem_decomposeWithin (isValidChar_toNat c) hmem
  rw [← toNat_ofNat_of_isValidChar hvalid] at hm
  have hblank := (testBit_spaceBits _).1 hm
  have hmark : ¬isMark (Char.ofNat m) := by
    rw [← testBit_markBits]
    intro hmark
    exact not_testBit_of_and_eq_zero plainChecks.space_marks hmark hm
  have hshift : lowercaseShifts.shift? (Char.ofNat m).toNat = none :=
    shift?_eq_none_of_testBit plainChecks.space_sources hm
  have hlower : plainLower (Char.ofNat m) = Char.ofNat m := by
    rw [plainLower, lowerPoint_of_none hshift, Char.ofNat_toNat, medial, if_neg]
    intro hsigma
    rw [hsigma] at hblank
    exact absurd hblank (by decide)
  refine ⟨Char.ofNat m, hblank, ?_⟩
  rw [plainLetters, decomposeChar_eq hsyllable, hdecomposed, List.map_singleton,
    List.filter_cons_of_pos (by simpa using hmark), List.filter_nil, List.map_singleton, hlower]

/-- A blank is folded to one, and apart from what stands around it. -/
theorem uncased_append_cons (hc : isWhiteSpace c) (x y : List Char) :
    ∃ b, isWhiteSpace b ∧ uncased (x ++ c :: y) = uncased x ++ b :: uncased y := by
  obtain ⟨b, hb, hletters⟩ := exists_plainLetters_of_isWhiteSpace hc
  have hhangul : ¬hangulBits.testBit b.toNat :=
    fun hbit => own_isWhiteSpace.not_of_hangul hbit hb
  refine ⟨b, hb, ?_⟩
  rw [uncased_eq, uncased_eq, uncased_eq, List.flatMap_append, List.flatMap_cons, hletters,
    List.singleton_append, composeHangul_append_cons hhangul]

theorem solid_uncased (hl : ∀ c ∈ l, ¬isWhiteSpace c) : ∀ c ∈ uncased l, ¬isWhiteSpace c :=
  own_isWhiteSpace.not_of_mem_uncased hl

/-- A folded text has the folded words of the text, those of marks alone left out. -/
theorem wordsOf_uncased (l : List Char) :
    wordsOf (uncased l) = ((wordsOf l).map uncased).filter (· ≠ []) := by
  induction hn : l.length using Nat.strong_induction_on generalizing l with
  | _ n ih =>
    obtain ⟨x, y, rfl, hx, hy⟩ := exists_first_word l
    have hfirst : wordsOf (uncased x) = ((wordsOf x).map uncased).filter (· ≠ []) := by
      cases x with
      | nil => rfl
      | cons d x =>
        rw [wordsOf_of_solid (List.cons_ne_nil d x) hx, List.map_singleton]
        by_cases hempty : uncased (d :: x) = []
        · rw [hempty]
          rfl
        · rw [wordsOf_of_solid hempty (solid_uncased hx), List.filter_cons_of_pos (by simpa using hempty),
            List.filter_nil]
    cases y with
    | nil => rwa [List.append_nil]
    | cons c y =>
      have hc : isWhiteSpace c := hy c rfl
      obtain ⟨b, hb, heq⟩ := uncased_append_cons hc x y
      have hrest := ih y.length (by simp [← hn]; omega) y rfl
      rw [heq, wordsOf_append_cons hb, wordsOf_append_cons hc, hfirst, hrest, List.map_append,
        List.filter_append]

/-- Whether a folded text starts with a blank, by the words of the text, around which no blanks stand: where
the first of them is of marks alone, a blank behind it comes first. -/
def startsBlank : List (List Char) → Option Bool
  | [] => none
  | x :: rest => if uncased x = [] then if rest = [] then none else some true else some false

theorem head?_uncased (hhead : ∀ c ∈ l.head?, ¬isWhiteSpace c) (hlast : ∀ c ∈ l.getLast?, ¬isWhiteSpace c) :
    (uncased l).head?.map isWhiteSpace = startsBlank (wordsOf l) := by
  obtain ⟨x, y, rfl, hx, hy⟩ := exists_first_word l
  cases x with
  | nil =>
    cases y with
    | nil => rfl
    | cons c y => exact absurd (hy c rfl) (hhead c rfl)
  | cons d x =>
    have hfirst : ∀ e es, uncased (d :: x) = e :: es → isWhiteSpace e = false := by
      intro e es heq
      simpa using solid_uncased hx e (heq ▸ List.mem_cons_self)
    rw [wordsOf_append_of_head hy, wordsOf_of_solid (List.cons_ne_nil d x) hx, List.singleton_append, startsBlank]
    cases y with
    | nil =>
      rw [List.append_nil]
      cases heq : uncased (d :: x) with
      | nil => simp
      | cons e es => simp [hfirst e es heq]
    | cons c y =>
      have hc : isWhiteSpace c := hy c rfl
      have hrest : wordsOf (c :: y) ≠ [] := by
        intro hnil
        obtain ⟨e, he⟩ : ∃ e, (c :: y).getLast? = some e := ⟨_, List.getLast?_eq_some_getLast (List.cons_ne_nil c y)⟩
        have hblank := blank_of_wordsOf_eq_nil hnil e (List.mem_of_getLast? he)
        exact hlast e (by rw [List.getLast?_append, he]; rfl) hblank
      obtain ⟨b, hb, heq'⟩ := uncased_append_cons hc (d :: x) y
      rw [heq']
      cases heq : uncased (d :: x) with
      | nil => simp [hb, hrest]
      | cons e es => simp [hfirst e es heq]

/-- What a text has but its blanks stands in its words. -/
theorem filter_eq_flatten_wordsOf (l : List Char) :
    (l.filter fun c => !isWhiteSpace c) = (wordsOf l).flatten := by
  induction hn : l.length using Nat.strong_induction_on generalizing l with
  | _ n ih =>
    obtain ⟨x, y, rfl, hx, hy⟩ := exists_first_word l
    have hfirst : (x.filter fun c => !isWhiteSpace c) = (wordsOf x).flatten := by
      rw [List.filter_eq_self.2 fun c hc => by simpa using hx c hc]
      cases x with
      | nil => rfl
      | cons d x =>
        rw [wordsOf_of_solid (List.cons_ne_nil d x) hx, List.flatten_singleton]
    cases y with
    | nil => rwa [List.append_nil]
    | cons c y =>
      have hc : isWhiteSpace c := hy c rfl
      have hrest := ih y.length (by simp [← hn]; omega) y rfl
      rw [List.filter_append, List.filter_cons_of_neg (by simpa using hc), hfirst, hrest,
        wordsOf_append_cons hc, List.flatten_append]

end Parlance.Unicode
