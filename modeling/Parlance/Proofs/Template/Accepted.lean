import Parlance.Proofs.Template.Filled
import Parlance.Proofs.Text.Reflected

/-!
What the patterns of kinds accept. Main statements: `fits_stretch`, that what such a pattern covers of a
text it accepts alone; `admits_of_fits` and `fits_of_admits`, that it accepts the texts of its characters;
and `reflected_admits`, that folding reflects these characters.
-/

namespace Parlance

open Unicode Pattern Intent

namespace Template

variable {t : Array Char} {a : Node} {i j k : Nat} {q : Char → Bool}

/-! Stretches that are covered. -/

theorem stretch_append (t : List Char) (hij : i ≤ j) (hjk : j ≤ k) :
    stretch t (i, k) = stretch t (i, j) ++ stretch t (j, k) := by
  have hall := drop_eq_stretch t (Nat.le_trans hij hjk)
  rw [drop_eq_stretch t hij, drop_eq_stretch t hjk, ← List.append_assoc] at hall
  exact (List.append_cancel_right hall).symm

theorem getElem?_stretch (t : List Char) (hi : i < k) :
    (stretch t (j, j + k))[i]? = t[j + i]? := by
  rw [stretch, Nat.add_sub_cancel_left, List.getElem?_take_of_lt hi, List.getElem?_drop]

/-- What a pattern covers within a stretch of a text it covers in the stretch alone. -/
theorem spans_stretch {m n : Nat} (h : Spans t a i j) (ha : a.Plain) (hm : m ≤ i) (hj : j ≤ m + n) :
    Spans (stretch t.toList (m, m + n)).toArray a (i - m) (j - m) := by
  induction h with
  | empty => exact .empty
  | @one i c p hc hp =>
    have hi : i - m < n := by omega
    have hnext : i + 1 - m = i - m + 1 := by omega
    rw [hnext]
    refine .one ?_ hp
    rw [List.getElem?_toArray, getElem?_stretch _ hi, Nat.add_sub_cancel' hm, Array.getElem?_toList, hc]
  | look => exact ha.elim
  | seq h h' iha ihb =>
    have hle := h.le
    have hle' := h'.le
    exact .seq (iha ha.1 hm (by omega)) (ihb ha.2 (by omega) hj)
  | left _ ih => exact .left (ih ha.1 hm hj)
  | right _ ih => exact .right (ih ha.2 hm hj)
  | skip => exact .skip
  | take _ ih => exact .take (ih ha hm hj)
  | once _ ih => exact .once (ih ha hm hj)
  | more h h' iha ihb =>
    have hle := h.le
    have hle' := h'.le
    exact .more (iha ha hm (by omega)) (ihb ha (by omega) hj)

theorem fits_stretch {l : List Char} (h : Spans l.toArray a i j) (ha : a.Plain) (hj : j ≤ l.length) :
    a.fits (String.ofList (stretch l (i, j))) := by
  have hspans := spans_stretch h ha le_rfl (by rw [Nat.add_sub_cancel' h.le] : j ≤ i + (j - i))
  rw [Nat.sub_self, Nat.add_sub_cancel' h.le] at hspans
  rw [fits_iff, String.toList_ofList, length_stretch hj]
  exact hspans

end Template

namespace Pattern

open Template

variable {t : Array Char} {a : Node} {i j : Nat} {q : Char → Bool}

/-- All characters of what a pattern matches are of a class. -/
def Node.Within (q : Char → Bool) : Node → Prop
  | .empty | .look _ => True
  | .one p => ∀ c, p c → q c
  | .seq a b | .alt a b => a.Within q ∧ b.Within q
  | .opt _ a | .plus _ a => a.Within q

/-- The first character of what a pattern matches is of a class. -/
def Node.StartsIn (q : Char → Bool) : Node → Prop
  | .empty | .look _ => True
  | .one p => ∀ c, p c → q c
  | .seq a b => a.StartsIn q ∧ (a.Moves ∨ b.StartsIn q)
  | .alt a b => a.StartsIn q ∧ b.StartsIn q
  | .opt _ a | .plus _ a => a.StartsIn q

/-- The last character of what a pattern matches is of a class. -/
def Node.EndsIn (q : Char → Bool) : Node → Prop
  | .empty | .look _ => True
  | .one p => ∀ c, p c → q c
  | .seq a b => b.EndsIn q ∧ (b.Moves ∨ a.EndsIn q)
  | .alt a b => a.EndsIn q ∧ b.EndsIn q
  | .opt _ a | .plus _ a => a.EndsIn q

theorem Spans.forall_stretch (h : Spans t a i j) (ha : a.Within q) :
    ∀ c ∈ stretch t.toList (i, j), q c := by
  induction h with
  | empty | look | skip => simp [stretch_self]
  | one hc hp =>
    rw [← Array.getElem?_toList] at hc
    rw [stretch_succ hc (Nat.lt_succ_self _), stretch_self]
    simpa using ha _ hp
  | seq h h' iha ihb =>
    rw [stretch_append _ h.le h'.le, List.forall_mem_append]
    exact ⟨iha ha.1, ihb ha.2⟩
  | left _ ih => exact ih ha.1
  | right _ ih => exact ih ha.2
  | take _ ih | once _ ih => exact ih ha
  | more h h' iha ihb =>
    rw [stretch_append _ h.le h'.le, List.forall_mem_append]
    exact ⟨iha ha, ihb ha⟩

theorem Spans.first (h : Spans t a i j) (ha : a.StartsIn q) (hij : i < j) : ∀ c ∈ t[i]?, q c := by
  induction h with
  | empty | look | skip => omega
  | one hc hp =>
    intro c hmem
    obtain rfl := Option.some.inj (hc.symm.trans hmem)
    exact ha _ hp
  | @seq _ i k j _ h h' iha ihb =>
    rcases Nat.eq_or_lt_of_le h.le with rfl | hlt
    · exact ihb (ha.2.resolve_left fun hmoves => (h.lt hmoves).false) hij
    · exact iha ha.1 hlt
  | left _ ih => exact ih ha.1 hij
  | right _ ih => exact ih ha.2 hij
  | take _ ih | once _ ih => exact ih ha hij
  | more h h' iha ihb =>
    rcases Nat.eq_or_lt_of_le h.le with rfl | hlt
    · exact ihb ha hij
    · exact iha ha hlt

theorem Spans.last (h : Spans t a i j) (ha : a.EndsIn q) (hij : i < j) : ∀ c ∈ t[j - 1]?, q c := by
  induction h with
  | empty | look | skip => omega
  | one hc hp =>
    intro c hmem
    obtain rfl := Option.some.inj (hc.symm.trans hmem)
    exact ha _ hp
  | seq h h' iha ihb =>
    rcases Nat.eq_or_lt_of_le h'.le with rfl | hlt
    · exact iha (ha.2.resolve_left fun hmoves => (h'.lt hmoves).false) hij
    · exact ihb ha.1 hlt
  | left _ ih => exact ih ha.1 hij
  | right _ ih => exact ih ha.2 hij
  | take _ ih | once _ ih => exact ih ha hij
  | more h h' iha ihb =>
    rcases Nat.eq_or_lt_of_le h'.le with rfl | hlt
    · exact iha ha hij
    · exact ihb ha hlt

theorem forall_of_fits {s : String} (h : a.fits s) (ha : a.Within q) : ∀ c ∈ s.toList, q c := by
  have hall := (fits_iff.1 h).forall_stretch ha
  simpa [stretch] using hall

/-- Nothing is trimmed off what starts and ends without blanks. -/
theorem trim_of_fits {s : String} (h : a.fits s) (hstart : a.StartsIn (!isWhiteSpace ·))
    (hend : a.EndsIn (!isWhiteSpace ·)) : Text.trim s = s := by
  rw [fits_iff] at h
  by_cases hnil : s.toList = []
  · rw [String.toList_eq_nil_iff] at hnil
    rw [hnil]
    rfl
  · have hpos : 0 < s.toList.length := List.length_pos_iff.2 hnil
    rw [Text.trim, Text.trimWhere, Text.trimList_eq_self, String.ofList_toList]
    · intro c hc
      rw [List.head?_eq_getElem?] at hc
      simpa using h.first hstart hpos c (by simpa using hc)
    · intro c hc
      rw [List.getLast?_eq_getElem?] at hc
      simpa using h.last hend hpos c (by simpa using hc)

end Pattern

namespace Slot.Kind

/-- A kind that any text fits which is one line. -/
def IsFree (kind : Kind) : Prop :=
  kind = .text ∨ kind = .custom

/-- The characters that stand in texts of a kind. -/
def admits : Kind → Char → Bool
  | .number, c => isDecimalDigit c || c = '-' || c = '.' || c = ','
  | .boolean, c => isWordChar c
  | .choice, c | .date, c => isWordChar c || c = '-'
  | .range, c => Template.isRangeChar c || isWhiteSpace c
  | .text, c | .custom, c => c ≠ '\n'

end Slot.Kind

namespace Template

variable {kind : Slot.Kind} {s : String} {l : List Char}

/-! Classes of characters. -/

def numberBits : Nat :=
  digitBits ||| charBits ['-', '.', ',']

/-- The characters of ranges besides those of words. -/
def rangeBits : Nat :=
  charBits ['.', ',', '-', '\u2013', '\u2014'] ||| spaceBits

theorem testBit_numberBits (c : Char) : numberBits.testBit c.toNat ↔ Slot.Kind.number.admits c := by
  rw [numberBits, Nat.testBit_or, Bool.or_eq_true, testBit_digitBits, testBit_charBits]
  simp [Slot.Kind.admits, or_assoc]

theorem testBit_rangeBits (c : Char) :
    rangeBits.testBit c.toNat ↔ c ∈ ['.', ',', '-', '\u2013', '\u2014'] ∨ isWhiteSpace c := by
  rw [rangeBits, Nat.testBit_or, Bool.or_eq_true, testBit_charBits, testBit_spaceBits]

theorem isWordChar_of_isMark {c : Char} (h : isMark c) : isWordChar c := by
  simp [isWordChar, h]

/-- What is checked of the classes of all kinds at once. -/
structure KindChecks : Prop where
  fixed : FixedChecks numberBits
  number : ReflectChecks (numberBits ||| markBits)
  word : ∀ extra ∈ [0, charBits ['-'], rangeBits], ReflectChecks (wordBits ||| extra)
  solid : wordBits &&& spaceBits = 0

theorem kindChecks : KindChecks := by
  have hall : FixedChecks numberBits ∧ ReflectChecks (numberBits ||| markBits) ∧
      (∀ extra ∈ [0, charBits ['-'], rangeBits], ReflectChecks (wordBits ||| extra)) ∧
      wordBits &&& spaceBits = 0 := by
    decide +kernel
  exact ⟨hall.1, hall.2.1, hall.2.2.1, hall.2.2.2⟩

/-- The classes in the patterns of kinds that are not free, but for the blanks within ranges. -/
structure SolidClasses : Prop where
  digit : ∀ c, isDecimalDigit c → isWhiteSpace c = false
  word : ∀ c, isWordChar c → isWhiteSpace c = false
  range : ∀ c, isRangeChar c → isWhiteSpace c = false

theorem not_isWhiteSpace_of_isWordChar {c : Char} (h : isWordChar c) : ¬isWhiteSpace c := by
  intro hblank
  exact not_testBit_of_and_eq_zero kindChecks.solid ((testBit_wordBits c).2 h)
    ((testBit_spaceBits c).2 hblank)

/-- A class of words and some other characters is reflected with or without the marks. -/
theorem reflected_word {p : Char → Bool} (extra : Nat) (hextra : extra ∈ [0, charBits ['-'], rangeBits])
    (hp : ∀ c, p c ↔ isWordChar c ∨ extra.testBit c.toNat) :
    Reflected (fun c => p c || isMark c) (wordBits ||| extra) := by
  refine ⟨fun c => ?_, kindChecks.word extra hextra⟩
  rw [Nat.testBit_or, Bool.or_eq_true, testBit_wordBits, ← hp, Bool.or_eq_true]
  exact (or_iff_left_of_imp fun hmark => (hp c).2 (.inl (isWordChar_of_isMark hmark))).symm

/-- Folding reflects the characters of each kind and the marks, unless the kind is free. -/
theorem reflected_admits (hkind : ¬kind.IsFree) :
    ∃ bits, Reflected (fun c => kind.admits c || isMark c) bits := by
  cases kind with
  | text | custom => simp [Slot.Kind.IsFree] at hkind
  | number =>
    refine ⟨numberBits ||| markBits, fun c => ?_, kindChecks.number⟩
    rw [Nat.testBit_or, Bool.or_eq_true, testBit_numberBits, testBit_markBits, Bool.or_eq_true]
  | boolean => exact ⟨_, reflected_word 0 (by simp) (by simp [Slot.Kind.admits])⟩
  | choice | date =>
    refine ⟨_, reflected_word (charBits ['-']) (by simp) fun c => ?_⟩
    rw [testBit_charBits]
    simp [Slot.Kind.admits]
  | range =>
    refine ⟨_, reflected_word rangeBits (by simp) fun c => ?_⟩
    rw [testBit_rangeBits]
    simp [Slot.Kind.admits, isRangeChar, or_assoc]

/-! Patterns of kinds. -/

theorem within_kindPattern (kind : Slot.Kind) : (kindPattern kind).Within kind.admits := by
  cases kind <;> simp +contextual [kindPattern, Node.Within, Slot.Kind.admits, digits, Node.star, gap,
    blank]

theorem solidClasses : SolidClasses := by
  have hword : ∀ c, isWordChar c → isWhiteSpace c = false := fun c hc => by
    simpa using not_isWhiteSpace_of_isWordChar hc
  refine ⟨fun c hc => hword c (by simp [isWordChar, hc]), hword, fun c hc => ?_⟩
  rw [isRangeChar, Bool.or_eq_true, List.contains_iff_mem] at hc
  rcases hc with hc | hc
  · exact hword c hc
  · have hlist : ".,-\u2013\u2014".toList = ['.', ',', '-', '\u2013', '\u2014'] := rfl
    simp only [hlist, List.mem_cons, List.not_mem_nil, or_false] at hc
    rcases hc with rfl | rfl | rfl | rfl | rfl <;> rfl

theorem startsIn_kindPattern (hkind : ¬kind.IsFree) :
    (kindPattern kind).StartsIn (!isWhiteSpace ·) := by
  have hminus : isWhiteSpace '-' = false := by decide
  cases kind with
  | text | custom => simp [Slot.Kind.IsFree] at hkind
  | number => simpa [kindPattern, Node.StartsIn, Node.Moves, digits, hminus] using solidClasses.digit
  | boolean => simpa [kindPattern, Node.StartsIn] using solidClasses.word
  | choice | date => simpa [kindPattern, Node.StartsIn, or_imp, forall_and, hminus] using solidClasses.word
  | range => simpa [kindPattern, Node.StartsIn, Node.Moves] using solidClasses.range

theorem endsIn_kindPattern (hkind : ¬kind.IsFree) : (kindPattern kind).EndsIn (!isWhiteSpace ·) := by
  have hminus : isWhiteSpace '-' = false := by decide
  cases kind with
  | text | custom => simp [Slot.Kind.IsFree] at hkind
  | number => simpa [kindPattern, Node.EndsIn, Node.Moves, digits] using solidClasses.digit
  | boolean => simpa [kindPattern, Node.EndsIn] using solidClasses.word
  | choice | date => simpa [kindPattern, Node.EndsIn, or_imp, forall_and, hminus] using solidClasses.word
  | range =>
    simpa [kindPattern, Node.EndsIn, Node.Moves, Node.star, gap, blank] using solidClasses.range

/-! Texts of kinds. -/

theorem admits_of_fits (h : (kindPattern kind).fits s) : ∀ c ∈ s.toList, kind.admits c :=
  forall_of_fits h (within_kindPattern kind)

theorem ne_empty_of_fits (h : (kindPattern kind).fits s) : s ≠ "" := by
  rintro rfl
  exact ((fits_iff.1 h).lt (moves_kindPattern kind)).false

theorem fits_plus {p : Char → Bool} (hne : l ≠ []) (h : ∀ c ∈ l, p c) :
    (Node.plus true (.one p)).fits (String.ofList l) := by
  rw [fits_iff, String.toList_ofList]
  exact spans_plus hne h

theorem spans_cons {a : Node} {i j : Nat} (h : Spans l.toArray a i j) (ha : a.Plain) (c : Char) :
    Spans (c :: l).toArray a (i + 1) (j + 1) := by
  simpa [Nat.add_comm] using h.embed ha [c] []

/-- The words of a range behind the first, each with blanks before it. -/
def furtherWords : Node :=
  .plus true (.seq gap (.plus true (.one isRangeChar)))

theorem spans_range_cons {c : Char} (hc : isRangeChar c)
    (h : Spans l.toArray (kindPattern .range) 0 l.length ∨
      Spans l.toArray furtherWords 0 l.length) :
    Spans (c :: l).toArray (kindPattern .range) 0 (l.length + 1) := by
  have hwords : (Node.plus true (.one isRangeChar)).Plain := trivial
  have hfurther : furtherWords.Plain := ⟨trivial, trivial⟩
  have hfirst : Spans (c :: l).toArray (.one isRangeChar) 0 1 := .one rfl hc
  cases h with
  | inl h =>
    cases h with
    | seq hword hopt =>
      exact .seq (.more hfirst (spans_cons hword hwords c)) (spans_cons hopt hfurther c)
  | inr h => exact .seq (.once hfirst) (.take (spans_cons h hfurther c))

theorem spans_furtherWords_cons {c : Char} (hc : isWhiteSpace c)
    (h : Spans l.toArray (kindPattern .range) 0 l.length ∨
      Spans l.toArray furtherWords 0 l.length) :
    Spans (c :: l).toArray furtherWords 0 (l.length + 1) := by
  have hgap : gap.Plain := trivial
  have hwords : (Node.plus true (.one isRangeChar)).Plain := trivial
  have hfurther : furtherWords.Plain := ⟨trivial, trivial⟩
  have hfirst : Spans (c :: l).toArray blank 0 1 := .one rfl hc
  cases h with
  | inl h =>
    cases h with
    | seq hword hopt =>
      have hgapped : Spans (c :: l).toArray gap 0 1 := .once hfirst
      have hnext := hgapped.seq (spans_cons hword hwords c)
      cases hopt with
      | skip => exact .once hnext
      | take hmore => exact .more hnext (spans_cons hmore hfurther c)
  | inr h =>
    -- the blanks of the first of these words have one more before them
    cases h with
    | once h =>
      cases h with
      | seq hblanks hword =>
        exact .once (.seq (.more hfirst (spans_cons hblanks hgap c)) (spans_cons hword hwords c))
    | more h hmore =>
      cases h with
      | seq hblanks hword =>
        exact .more (.seq (.more hfirst (spans_cons hblanks hgap c)) (spans_cons hword hwords c))
          (spans_cons hmore hfurther c)

/-- Words with blanks between make up a range, and behind a range if blanks stand before them. -/
theorem spans_range (hne : l ≠ []) (hall : ∀ c ∈ l, isRangeChar c ∨ isWhiteSpace c)
    (hlast : ∀ c ∈ l.getLast?, ¬isWhiteSpace c) :
    ((∀ c ∈ l.head?, ¬isWhiteSpace c) → Spans l.toArray (kindPattern .range) 0 l.length) ∧
      ((∀ c ∈ l.head?, isWhiteSpace c) → Spans l.toArray furtherWords 0 l.length) := by
  induction l with
  | nil => exact absurd rfl hne
  | cons c l ih =>
    obtain ⟨hc, hrest⟩ := List.forall_mem_cons.1 hall
    cases l with
    | nil =>
      have hsolid : ¬isWhiteSpace c := hlast c rfl
      have hword : Spans [c].toArray (.one isRangeChar) 0 1 := .one rfl (hc.resolve_right hsolid)
      exact ⟨fun _ => .seq (.once hword) .skip, fun hblank => absurd (hblank c rfl) hsolid⟩
    | cons d l =>
      obtain ⟨hsolidRest, hblankRest⟩ := ih (List.cons_ne_nil d l) hrest
        (by rwa [List.getLast?_cons_cons] at hlast)
      have hbehind : Spans (d :: l).toArray (kindPattern .range) 0 (d :: l).length ∨
          Spans (d :: l).toArray furtherWords 0 (d :: l).length := by
        by_cases hd : isWhiteSpace d
        · exact .inr (hblankRest (by simpa using hd))
        · exact .inl (hsolidRest (by simpa using hd))
      constructor
      · intro hsolid
        exact spans_range_cons (hc.resolve_right (hsolid c rfl)) hbehind
      · intro hblank
        exact spans_furtherWords_cons (hblank c rfl) hbehind

/-- Texts of the characters of a kind fit it, if they have no blanks around them; numbers have more
structure than that. -/
theorem fits_of_admits (hnumber : kind ≠ .number) (hne : l ≠ []) (hall : ∀ c ∈ l, kind.admits c)
    (hhead : ∀ c ∈ l.head?, ¬isWhiteSpace c) (hlast : ∀ c ∈ l.getLast?, ¬isWhiteSpace c) :
    (kindPattern kind).fits (String.ofList l) := by
  cases kind with
  | number => exact absurd rfl hnumber
  | range =>
    rw [fits_iff, String.toList_ofList]
    exact (spans_range hne (by simpa [Slot.Kind.admits] using hall) hlast).1 hhead
  | boolean | choice | date | text | custom => exact fits_plus hne hall

end Template

end Parlance
