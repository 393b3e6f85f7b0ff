import Parlance.Proofs.Text.Reflected

/-!
Texts without marks. Main statements: `bare_stripMarks`, that what is left of a text without its marks
takes nothing more to be without them; `Bare.stripMarks_eq` and `Bare.lowercase`, that dropping marks leaves
such a text alone and turning it to lower case keeps it so; and from these `fold_fold`, that folding twice
is folding once.
-/

namespace Parlance.Unicode

open Text

-- the table is too long to be looked into
attribute [local irreducible] decompositionSteps

variable {c d : Char} {l l' : List Char} {n m depth bits : Nat} {parts : List Nat}

/-! The table of decompositions. -/

/-- The code points that the table decomposes. -/
def composedBits : Nat :=
  unionBits (fun e => 1 <<< e.1) decompositionSteps.toList

/-- The code points that the table decomposes to some of a class. -/
def aboveBits (bits : Nat) : Nat :=
  unionBits (fun e => if e.2.any bits.testBit then 1 <<< e.1 else 0) decompositionSteps.toList

/-- Whether a class holds, of a stretch that is shifted, each code point whose image it holds. -/
def holdsSources (bits : Nat) (e : Nat × Shift) : Bool :=
  let images := bits >>> e.2.image &&& stretchBits 0 e.2.step (e.2.count e.1)
  images &&& bits >>> e.1 == images

/-- What is checked of the tables entry by entry. -/
structure BareChecks : Prop where
  increases : increases decompositionSteps.toList
  /-- Nothing decomposes in more than three steps. -/
  depth : aboveBits (aboveBits (aboveBits composedBits)) = 0
  ascii : intervalBits 0 0xC0 &&& composedBits = 0
  hangul : hangulBits &&& composedBits = 0
  hangul_marks : hangulBits &&& markBits = 0
  hangul_images : lowercaseShifts.images &&& hangulBits = 0
  mark_images : lowercaseShifts.images &&& markBits = 0
  /-- What is in lower case decomposes only where its upper case does. -/
  case : lowercaseShifts.toList.all (holdsSources composedBits)

theorem bareChecks : BareChecks := by
  constructor <;> decide +kernel

theorem testBit_composedBits_iff : composedBits.testBit n ↔ ∃ parts, decompositionSteps.at? n = some parts := by
  constructor
  · intro h
    obtain ⟨⟨k, parts⟩, he, hbit⟩ := testBit_unionBits_iff.1 h
    obtain rfl : k = n := by simpa [Nat.one_shiftLeft, Nat.testBit_two_pow] using hbit
    exact ⟨parts, at?_of_mem (increasing_of_increases bareChecks.increases) he⟩
  · rintro ⟨parts, hparts⟩
    exact testBit_unionBits (mem_of_at? hparts) (testBit_one_shiftLeft_self n)

theorem at?_eq_none_iff : decompositionSteps.at? n = none ↔ ¬composedBits.testBit n := by
  rw [testBit_composedBits_iff, Option.eq_none_iff_forall_ne_some, not_exists]

/-- The code points before those that are looked for in the table are not in it. -/
theorem at?_eq_none_of_lt (h : n < 0xC0) : decompositionSteps.at? n = none :=
  at?_eq_none_iff.2 (not_testBit_of_and_eq_zero bareChecks.ascii
    (testBit_intervalBits.2 ⟨Nat.zero_le n, h⟩))

theorem at?_eq_none_of_hangul (h : hangulBits.testBit n) : decompositionSteps.at? n = none :=
  at?_eq_none_iff.2 (not_testBit_of_and_eq_zero bareChecks.hangul h)

theorem not_testBit_of_at? (h : ¬(aboveBits bits).testBit n)
    (hparts : decompositionSteps.at? n = some parts) : ∀ m ∈ parts, ¬bits.testBit m := by
  intro m hm hbit
  apply h
  apply testBit_unionBits (mem_of_at? hparts)
  rw [if_pos (List.any_eq_true.2 ⟨m, hm, hbit⟩)]
  exact testBit_one_shiftLeft_self n

/-- Following the steps ends with what does not decompose, when it does so one step deeper. -/
theorem leaf_of_aboveBits (hbelow : ∀ k, ¬bits.testBit k → ∀ m ∈ decomposeWithin depth k,
      decompositionSteps.at? m = none) (h : ¬(aboveBits bits).testBit n) :
    ∀ m ∈ decomposeWithin (depth + 1) n, decompositionSteps.at? m = none := by
  intro m hm
  rw [decomposeWithin_succ] at hm
  split at hm
  · rename_i parts hparts
    obtain ⟨k, hk, hm⟩ := List.mem_flatMap.1 hm
    exact hbelow k (not_testBit_of_at? h hparts k hk) m hm
  · rename_i hnone
    rwa [List.mem_singleton.1 hm]

theorem leaf_of_mem_decomposeWithin (h : m ∈ decomposeWithin 3 n) :
    decompositionSteps.at? m = none := by
  have hzero : ∀ k, ¬composedBits.testBit k → ∀ m ∈ decomposeWithin 0 k,
      decompositionSteps.at? m = none := by
    intro k hk m hm
    rw [List.mem_singleton.1 hm]
    exact at?_eq_none_iff.2 hk
  have hthree : ∀ k, ¬(aboveBits (aboveBits (aboveBits composedBits))).testBit k →
      ∀ m ∈ decomposeWithin 3 k, decompositionSteps.at? m = none :=
    fun _ => leaf_of_aboveBits fun _ => leaf_of_aboveBits fun _ => leaf_of_aboveBits hzero
  refine hthree n ?_ m h
  rw [bareChecks.depth, Nat.zero_testBit]
  exact Bool.false_ne_true

/-! Characters taken apart. -/

theorem decomposeChar_eq (h : ¬Syllable c) :
    decomposeChar c = (decomposeWithin 3 c.toNat).map Char.ofNat := by
  unfold decomposeChar
  split
  · rename_i hascii
    rw [decomposeWithin_succ, at?_eq_none_of_lt hascii]
    dsimp only
    rw [List.map_singleton, Char.ofNat_toNat]
  · rw [decompose?_eq_none h]

theorem not_isMark_of_hangul (h : hangulBits.testBit c.toNat) : ¬isMark c := by
  intro hmark
  exact not_testBit_of_and_eq_zero bareChecks.hangul_marks h ((testBit_markBits c).2 hmark)

/-! Texts without marks. -/

/-- A character that is no mark and that the table does not decompose. -/
structure Settled (c : Char) : Prop where
  unmarked : ¬isMark c
  leaf : decompositionSteps.at? c.toNat = none

/-- A text whose marks are dropped. -/
structure Bare (l : List Char) : Prop where
  settled : ∀ c ∈ l, Settled c
  apart : l.IsChain Apart

theorem Syllable.settled (h : Syllable c) : Settled c :=
  ⟨not_isMark_of_hangul h.testBit, at?_eq_none_of_hangul h.testBit⟩

theorem leaf_of_mem_decomposeChar (hd : d ∈ decomposeChar c) :
    decompositionSteps.at? d.toNat = none := by
  by_cases hc : Syllable c
  · exact at?_eq_none_of_hangul (hc.testBit_of_mem hd)
  · rw [decomposeChar_eq hc] at hd
    obtain ⟨m, hm, rfl⟩ := List.mem_map.1 hd
    rcases toNat_ofNat m with hchar | hzero
    · rw [hchar]
      exact leaf_of_mem_decomposeWithin hm
    · exact at?_eq_none_of_lt (by omega)

theorem settled_of_mem_filter (hc : c ∈ (l.flatMap decomposeChar).filter fun c => !isMark c) :
    Settled c := by
  obtain ⟨hmem, hmark⟩ := List.mem_filter.1 hc
  obtain ⟨e, -, he⟩ := List.mem_flatMap.1 hmem
  exact ⟨by simpa using hmark, leaf_of_mem_decomposeChar he⟩

/-- What is left of a text without its marks takes nothing more to be without them. -/
theorem bare_stripMarks (l : List Char) : Bare (stripMarks l) := by
  unfold stripMarks
  have hkept : ∀ c ∈ (l.flatMap decomposeChar).filter fun c => !isMark c, Settled c :=
    fun c hc => settled_of_mem_filter hc
  cases hl : (l.flatMap decomposeChar).filter fun c => !isMark c with
  | nil => exact ⟨List.forall_mem_nil _, .nil⟩
  | cons c rest =>
    rw [hl] at hkept
    obtain ⟨d, rest', hgo, -, hchain⟩ := exists_go c rest
    rw [composeHangul, hgo]
    refine ⟨fun e he => ?_, hchain⟩
    rcases mem_go (hgo ▸ he) with hmem | hsyllable
    · exact hkept e hmem
    · exact hsyllable.settled

/-- A character of such a text is taken apart without making marks, and its letters are joined, in front
of a text or behind a character, as it would have been. -/
theorem Settled.exists_letters (h : Settled c) : ∃ d tail, decomposeChar c = d :: tail ∧
    (∀ e ∈ d :: tail, ¬isMark e) ∧
    (∀ rest, composeHangul.go d (tail ++ rest) = composeHangul.go c rest) ∧
    ∀ b rest, composeHangul.go b (d :: (tail ++ rest)) = composeHangul.go b (c :: rest) := by
  by_cases hsyllable : Syllable c
  · obtain ⟨d, tail, hletters, hlead, hall, hgo⟩ := hsyllable.exists_letters
    refine ⟨d, tail, hletters, fun e he => not_isMark_of_hangul (hall e he), hgo, fun b rest => ?_⟩
    have hletter : Apart b d := apart_of_first (.inr hlead) b
    have hwhole : Apart b c := apart_of_first (.inl hsyllable) b
    rw [composeHangul.go, composeHangul.go, hletter, hwhole]
    exact congrArg (b :: ·) (hgo rest)
  · exact ⟨c, [], decomposeChar_of_leaf h.leaf hsyllable, by simpa using h.unmarked, fun _ => rfl,
      fun _ _ => rfl⟩

theorem Settled.not_isMark_of_mem (h : Settled c) (hd : d ∈ decomposeChar c) : ¬isMark d := by
  obtain ⟨e, tail, hletters, hall, -⟩ := h.exists_letters
  rw [hletters] at hd
  exact hall d hd

theorem go_flatMap (h : ∀ d ∈ l, Settled d) (c : Char) :
    composeHangul.go c (l.flatMap decomposeChar) = composeHangul.go c l := by
  induction l generalizing c with
  | nil => rfl
  | cons d l ih =>
    obtain ⟨hd, hl⟩ := List.forall_mem_cons.1 h
    obtain ⟨e, tail, hletters, -, -, hbehind⟩ := hd.exists_letters
    rw [List.flatMap_cons, hletters, List.cons_append, hbehind, composeHangul.go, composeHangul.go]
    split
    · exact ih hl _
    · rw [ih hl]

/-- Characters that are taken apart are joined as they would have been. -/
theorem composeHangul_flatMap (h : ∀ c ∈ l, Settled c) :
    composeHangul (l.flatMap decomposeChar) = composeHangul l := by
  cases l with
  | nil => rfl
  | cons c l =>
    obtain ⟨hc, hl⟩ := List.forall_mem_cons.1 h
    obtain ⟨e, tail, hletters, -, hgo, -⟩ := hc.exists_letters
    rw [List.flatMap_cons, hletters, List.cons_append, composeHangul, hgo, go_flatMap hl, composeHangul]

namespace Bare

theorem stripMarks_eq (h : Bare l) : stripMarks l = l := by
  have hunmarked : (l.flatMap decomposeChar).filter (fun c => !isMark c) = l.flatMap decomposeChar := by
    rw [List.filter_eq_self]
    intro d hd
    obtain ⟨c, hc, hd⟩ := List.mem_flatMap.1 hd
    simpa using (h.settled c hc).not_isMark_of_mem hd
  rw [stripMarks, hunmarked, composeHangul_flatMap h.settled, composeHangul_of_apart h.apart]

theorem of_append {x y : List Char} (h : Bare (x ++ l ++ y)) : Bare l :=
  ⟨fun c hc => h.settled c (by simp [hc]), h.apart.left_of_append.right_of_append⟩

end Bare

/-! Lower case. -/

/-- What a character of a text without marks may be turned to so that the text stays one. -/
structure Follows (c d : Char) : Prop where
  settled : Settled d
  hangul : hangulBits.testBit d.toNat → d = c

theorem Bare.of_follows (h : Bare l) (hl : List.Forall₂ Follows l l') : Bare l' := by
  induction hl with
  | nil => exact h
  | @cons c d l l' hcd hrest ih =>
    obtain ⟨hsettled, hchain⟩ := h
    have htail : Bare l' := ih ⟨fun e he => hsettled e (List.mem_cons_of_mem _ he), hchain.tail⟩
    refine ⟨List.forall_mem_cons.2 ⟨hcd.settled, htail.settled⟩, ?_⟩
    cases hrest with
    | nil => exact .singleton d
    | @cons c' d' l l' hcd' hrest =>
      refine .cons_cons ?_ htail.apart
      have hapart := (List.isChain_cons_cons.1 hchain).1
      unfold Apart at hapart ⊢
      rw [Option.eq_none_iff_forall_ne_some] at hapart ⊢
      intro n hn
      obtain ⟨hfirst, hsecond, -⟩ := hangul_of_compose? hn
      rw [hcd.hangul hfirst, hcd'.hangul hsecond] at hn
      exact hapart n hn

theorem leaf_of_shift? (h : decompositionSteps.at? n = none)
    (hm : lowercaseShifts.shift? n = some m) : decompositionSteps.at? m = none := by
  rw [at?_eq_none_iff] at h ⊢
  intro himage
  obtain ⟨e, he, hfirst, hlast, hstep, rfl⟩ := shift?_eq_some hm
  have hcheck := List.all_eq_true.1 bareChecks.case e he
  rw [holdsSources, beq_iff_eq] at hcheck
  have hoffset : (stretchBits 0 e.2.step (e.2.count e.1)).testBit (n - e.1) := by
    have hk : (n - e.1) / e.2.step < e.2.count e.1 :=
      Nat.lt_succ_of_le (Nat.div_le_div_right (Nat.sub_le_sub_right hlast e.1))
    have hbit : (stretchBits 0 e.2.step (e.2.count e.1)).testBit (0 + e.2.step * ((n - e.1) / e.2.step)) :=
      testBit_stretchBits hk
    rwa [Nat.zero_add, Nat.mul_div_cancel' (Nat.dvd_of_mod_eq_zero hstep)] at hbit
  have himages : (composedBits >>> e.2.image &&&
      stretchBits 0 e.2.step (e.2.count e.1)).testBit (n - e.1) := by
    rw [Nat.testBit_and, Nat.testBit_shiftRight, himage, hoffset, Bool.and_self]
  have hsource := testBit_of_and_eq_left hcheck himages
  rw [Nat.testBit_shiftRight, Nat.add_sub_cancel' hfirst] at hsource
  exact h hsource

/-- What is checked of the characters that turning to lower case makes without the table, or where the
table tells no character. -/
structure ExceptionChecks : Prop where
  dotted : decompositionSteps.at? 'İ'.toNat ≠ none
  others : ['σ', 'ς', '\x00'].all fun d =>
    !isMark d && (decompositionSteps.at? d.toNat).isNone && !hangulBits.testBit d.toNat

theorem exceptionChecks : ExceptionChecks := by
  constructor <;> decide +kernel

theorem follows_exception (hd : d ∈ ['σ', 'ς', '\x00']) (c : Char) : Follows c d := by
  have hchecks := List.all_eq_true.1 exceptionChecks.others d hd
  simp only [Bool.and_eq_true, Bool.not_eq_true', Option.isNone_iff_eq_none] at hchecks
  obtain ⟨⟨hmark, hleaf⟩, hhangul⟩ := hchecks
  exact ⟨⟨by simp [hmark], hleaf⟩, fun h => by simp [hhangul] at h⟩

theorem Settled.follows_of_shift? (h : Settled c) (hm : lowercaseShifts.shift? c.toNat = some m) :
    Follows c (Char.ofNat m) := by
  have himage := (testBit_of_shift? hm).2
  rcases toNat_ofNat m with hchar | hzero
  · refine ⟨⟨fun hmark => ?_, ?_⟩, fun hhangul => ?_⟩
    · rw [← testBit_markBits, hchar] at hmark
      exact not_testBit_of_and_eq_zero bareChecks.mark_images himage hmark
    · rw [hchar]
      exact leaf_of_shift? h.leaf hm
    · rw [hchar] at hhangul
      exact absurd hhangul (not_testBit_of_and_eq_zero bareChecks.hangul_images himage)
  · have hnull : Char.ofNat m = '\x00' := Char.toNat_inj.1 hzero
    rw [hnull]
    exact follows_exception (by simp) c

theorem Settled.follows_lowercaseChar (h : Settled c) :
    ∃ d, lowercaseChar c = [d] ∧ Follows c d := by
  have hdotted : c ≠ 'İ' := by
    rintro rfl
    exact exceptionChecks.dotted h.leaf
  refine ⟨_, lowercaseChar_of_ne hdotted, ?_⟩
  cases hshift : lowercaseShifts.shift? c.toNat with
  | none =>
    rw [Option.getD_none, Char.ofNat_toNat]
    exact ⟨h, fun _ => rfl⟩
  | some m => exact h.follows_of_shift? hshift

theorem follows_lowercaseFrom (h : ∀ c ∈ l, Settled c) (casedBefore : Bool) :
    List.Forall₂ Follows l (lowercaseFrom casedBefore l) := by
  induction l generalizing casedBefore with
  | nil => exact .nil
  | cons c l ih =>
    obtain ⟨hc, hl⟩ := List.forall_mem_cons.1 h
    have hrest := ih hl (if isCaseIgnorable c then casedBefore else isCased c)
    rw [lowercaseFrom]
    split
    · split
      · exact .cons (follows_exception (by simp) c) hrest
      · exact .cons (follows_exception (by simp) c) hrest
    · obtain ⟨d, hd, hfollows⟩ := hc.follows_lowercaseChar
      rw [hd]
      exact .cons hfollows hrest

theorem Bare.lowercase (h : Bare l) : Bare (Unicode.lowercase l) :=
  h.of_follows (follows_lowercaseFrom h.settled false)

/-! Folded texts. -/

theorem bare_fold (s : String) : Bare (fold s).toList := by
  rw [fold, String.toList_ofList]
  exact (bare_stripMarks s.toList).lowercase

theorem lowered_fold (s : String) : ∀ c ∈ (fold s).toList, Lowered c := by
  intro c hc
  rw [fold, String.toList_ofList] at hc
  exact lowered_of_mem_lowercase hc

/-- Folding leaves alone what is without marks and in lower case. -/
theorem fold_of_bare {s : String} (h : Bare s.toList) (hs : ∀ c ∈ s.toList, Lowered c) : fold s = s := by
  rw [fold, h.stripMarks_eq, lowercase_of_lowered hs, String.ofList_toList]

/-- Folding twice is folding once. -/
theorem fold_fold (s : String) : fold (fold s) = fold s :=
  fold_of_bare (bare_fold s) (lowered_fold s)

/-- Folding leaves alone what is cut out of a folded text. -/
theorem fold_of_append {s : String} {x y z : List Char} (h : (fold s).toList = x ++ y ++ z) :
    fold (String.ofList y) = String.ofList y := by
  have hbare := bare_fold s
  have hlowered := lowered_fold s
  rw [h] at hbare hlowered
  apply fold_of_bare
  · rw [String.toList_ofList]
    exact hbare.of_append
  · intro c hc
    rw [String.toList_ofList] at hc
    exact hlowered c (by simp [hc])

end Parlance.Unicode
