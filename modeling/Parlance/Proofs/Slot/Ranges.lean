import Parlance.Proofs.Slot.Numeral
import Parlance.Proofs.Text.Reflected

/-!
The bounds of ranges. Main statements: `readRange_dashed`, that numerals with a dash between them are the
bounds of a range, signs or not; and `readRange_spoken`, which bounds are read of a range in words.
-/

namespace Parlance.Slot

open Text Unicode Double

variable {raw locale : String} {a b : Numeral} {x y : Float} {l left right pre post : List Char} {c d : Char}

/-! Plain texts. -/

def letterBits : Nat :=
  intervalBits 0x61 0x7B

/-- The characters that ranges are written with, but for blanks. -/
def plainBits : Nat :=
  numeralBits ||| charBits ['-', '\u2013', '\u2014'] ||| letterBits

/-- A text of which folding changes nothing. -/
def Plain (l : List Char) : Prop :=
  ∀ c ∈ l, plainBits.testBit c.toNat

theorem fixedChecks_plainBits : FixedChecks plainBits := by
  decide +kernel

theorem Plain.map_medial (h : Plain l) : l.map medial = l := by
  have hmedial : ∀ c ∈ l, medial c = c := by
    intro c hc
    apply medial_of_ne
    rintro rfl
    exact absurd (h _ hc) (by decide)
  rw [List.map_congr_left hmedial, List.map_id']

theorem Plain.uncased (h : Plain l) : uncased l = l := by
  have hlowered : ∀ c ∈ l, Lowered c := fun c hc => fixedChecks_plainBits.lowered (h c hc)
  rw [Unicode.uncased, fixedChecks_plainBits.stripMarks_eq h, lowercase_of_lowered hlowered,
    h.map_medial]

theorem plain_of_mem_wordsOf (h : ∀ c ∈ l, isWhiteSpace c ∨ plainBits.testBit c.toNat) :
    ∀ w ∈ wordsOf l, Plain w := by
  intro w hw c hc
  have hmem : c ∈ (wordsOf l).flatten := List.mem_flatten.2 ⟨w, hw, hc⟩
  rw [← filter_eq_flatten_wordsOf, List.mem_filter] at hmem
  exact (h c hmem.1).resolve_left (by simpa using hmem.2)

/-- A range in plain characters is read of the text as it stands. -/
theorem readRange_of_plain (hplain : ∀ c ∈ raw.toList, isWhiteSpace c ∨ plainBits.testBit c.toNat) :
    readRange locale raw =
      (readDashed (trim raw).toList).or (readSpoken (rangeWords locale) (words raw)) := by
  have h := plain_of_mem_wordsOf hplain
  have hne : ∀ w ∈ wordsOf raw.toList, w ≠ [] := by
    intro w hw
    obtain ⟨placed, hplaced, rfl⟩ := List.mem_map.1 hw
    exact (solid_of_mem_wordsFrom_nil hplaced).1
  have hsame {f : List Char → List Char} (hf : ∀ w, Plain w → f w = w) :
      (wordsOf raw.toList).map f = wordsOf raw.toList := by
    rw [List.map_congr_left fun w hw => hf w (h w hw), List.map_id']
  rw [← words_trim raw]
  apply readRange_eq
  · rw [wordsOf_uncased, wordsOf_map isWhiteSpace_medial, wordsOf_trim, hsame fun _ => Plain.uncased,
      hsame fun _ => Plain.map_medial, List.filter_eq_self.2 fun w hw => by simpa using hne w hw]
  · obtain ⟨hhead, hlast⟩ := ends_trim raw
    rw [head?_uncased hhead hlast]
    cases hcut : (trim raw).toList with
    | nil => rfl
    | cons c l =>
      have hc : isWhiteSpace c = false := by simpa [hcut] using hhead
      cases hwords : wordsOf (c :: l) with
      | nil => exact absurd (blank_of_wordsOf_eq_nil hwords c List.mem_cons_self) (by simp [hc])
      | cons w ws =>
        have hw : w ∈ wordsOf raw.toList := by
          rw [← wordsOf_trim, hcut, hwords]
          exact List.mem_cons_self
        rw [startsBlank, (h w hw).uncased, if_neg (hne w hw), List.head?_cons, Option.map_some, hc]

theorem plain_of_isNumeral (h : isNumeral c) : plainBits.testBit c.toNat := by
  rw [plainBits, Nat.testBit_or, Nat.testBit_or, (testBit_numeralBits c).2 h]
  rfl

theorem Numeral.plain (n : Numeral) : ∀ c ∈ n.chars, isWhiteSpace c ∨ plainBits.testBit c.toNat :=
  fun _ hc => .inr (plain_of_isNumeral (isNumeral_of_mem_chars hc))

theorem plain_of_isDash (h : isDash c) : plainBits.testBit c.toNat := by
  simp only [isDash, Bool.or_eq_true, decide_eq_true_eq] at h
  rcases h with (rfl | rfl) | rfl <;> decide

/-! Texts without numerals and dashes. -/

/-- A text of blanks and small letters alone. -/
def Wordy (l : List Char) : Prop :=
  ∀ c ∈ l, isWhiteSpace c ∨ letterBits.testBit c.toNat

/-- What is checked of the words of ranges and of their letters. -/
structure LetterWords : Prop where
  words : ∀ ws ∈ [spanishRange, englishRange], ∀ k ∈ ws.leads ++ ws.connectors,
    k.toList.all fun c => letterBits.testBit c.toNat
  apart : letterBits &&& (numeralBits ||| charBits ['-', '\u2013', '\u2014'] ||| spaceBits) = 0

theorem letterWords : LetterWords := by
  constructor <;> decide +kernel

theorem not_testBit_of_letter (h : letterBits.testBit c.toNat) :
    ¬isNumeral c ∧ ¬isDash c ∧ ¬isWhiteSpace c := by
  have hapart := not_testBit_of_and_eq_zero letterWords.apart h
  simp only [Nat.testBit_or, Bool.or_eq_true, not_or] at hapart
  obtain ⟨⟨hnumeral, hdash⟩, hspace⟩ := hapart
  rw [testBit_numeralBits] at hnumeral
  rw [testBit_charBits] at hdash
  rw [testBit_spaceBits] at hspace
  refine ⟨hnumeral, ?_, hspace⟩
  simpa [isDash, or_assoc] using hdash

theorem wordy_of_blank (h : ∀ c ∈ l, isWhiteSpace c) : Wordy l :=
  fun c hc => .inl (h c hc)

namespace Wordy

theorem filter (h : Wordy l) : l.filter isNumeral = [] := by
  rw [List.filter_eq_nil_iff]
  intro c hc
  rcases h c hc with hblank | hletter
  · exact not_isNumeral_of_isWhiteSpace hblank
  · exact (not_testBit_of_letter hletter).1

theorem not_isDash (h : Wordy l) (hc : c ∈ l) : ¬isDash c := by
  rcases h c hc with hblank | hletter
  · exact not_isDash_of_isWhiteSpace hblank
  · exact (not_testBit_of_letter hletter).2.1

theorem plain (h : Wordy l) : ∀ c ∈ l, isWhiteSpace c ∨ plainBits.testBit c.toNat := by
  intro c hc
  refine (h c hc).imp_right fun hletter => ?_
  rw [plainBits, Nat.testBit_or, hletter, Bool.or_true]

end Wordy

/-! Dashes. -/

/-- The first dash behind the first character parts the bounds. -/
theorem readDashed_append (hne : pre ≠ []) (hpre : ∀ c ∈ pre.tail, ¬isDash c) (hd : isDash d)
    (post : List Char) : readDashed (pre ++ d :: post) = readSides pre post := by
  cases pre with
  | nil => exact absurd rfl hne
  | cons c pre =>
    have hall : ∀ c ∈ pre, (!isDash c) = true := fun c hc => by simpa using hpre c hc
    rw [List.cons_append, readDashed_cons, readBehind, List.dropWhile_append_of_pos hall,
      List.takeWhile_append_of_pos hall, List.dropWhile_cons_of_neg (by simpa using hd),
      List.takeWhile_cons_of_neg (by simpa using hd), List.append_nil]

theorem readDashed_eq_none (h : ∀ c ∈ l.tail, ¬isDash c) : readDashed l = none := by
  cases l with
  | nil => rfl
  | cons c l =>
    have hnil : (l.dropWhile fun d => !isDash d) = [] := by simpa [List.dropWhile_eq_nil_iff] using h
    rw [readDashed_cons, readBehind, hnil]

/-- What has the characters of a numeral is not blank. -/
theorem not_all_isWhiteSpace (h : l.filter isNumeral = a.chars) : l.all isWhiteSpace = false := by
  rw [Bool.eq_false_iff, ne_eq, List.all_eq_true]
  intro hall
  apply a.chars_ne_nil
  rw [← h, List.filter_eq_nil_iff]
  exact fun c hc => not_isNumeral_of_isWhiteSpace (hall c hc)

theorem readNumber_of_filter (h : l.filter isNumeral = a.chars) :
    readNumber (String.ofList l) = readNumber a.text := by
  apply readNumber_congr
  rw [String.toList_ofList, h, Numeral.text, String.toList_ofList, a.filter_chars]

theorem readSides_eq (hleft : left.filter isNumeral = a.chars) (hright : right.filter isNumeral = b.chars)
    (ha : readNumber a.text = some x) (hb : readNumber b.text = some y) :
    readSides left right = some (x, y) := by
  rw [readSides, not_all_isWhiteSpace hleft, not_all_isWhiteSpace hright, readNumber_of_filter hleft,
    readNumber_of_filter hright, ha, hb]
  rfl

theorem Numeral.not_isWhiteSpace (h : c ∈ a.chars) : ¬isWhiteSpace c :=
  fun hblank => not_isNumeral_of_isWhiteSpace hblank (isNumeral_of_mem_chars h)

/-- Two numerals with a dash between them are the bounds of a range, whatever their signs. -/
theorem readRange_dashed (a b : Numeral) (ha : a.amount < overflow) (hb : b.amount < overflow)
    (hd : isDash d) {u v w z : List Char} (hblank : ∀ c ∈ u ++ v ++ w ++ z, isWhiteSpace c)
    (locale : String) :
    ∃ x y, readNumber a.text = some x ∧ readNumber b.text = some y ∧
      readRange locale (String.ofList (u ++ a.chars ++ v ++ d :: (w ++ b.chars ++ z))) =
        some (x, y) := by
  have hx := Numeral.readNumber_text ha
  have hy := Numeral.readNumber_text hb
  refine ⟨_, _, hx, hy, ?_⟩
  simp only [List.forall_mem_append] at hblank
  obtain ⟨⟨⟨hu, hv⟩, hw⟩, hz⟩ := hblank
  have hbefore : Wordy v := wordy_of_blank hv
  have hbehind : Wordy w := wordy_of_blank hw
  have hplain : ∀ c ∈ u ++ a.chars ++ v ++ d :: (w ++ b.chars ++ z),
      isWhiteSpace c ∨ plainBits.testBit c.toNat := by
    simp only [List.forall_mem_append, List.forall_mem_cons]
    exact ⟨⟨⟨(wordy_of_blank hu).plain, a.plain⟩, hbefore.plain⟩, .inr (plain_of_isDash hd),
      ⟨hbehind.plain, b.plain⟩, (wordy_of_blank hz).plain⟩
  have htrim : trimList isWhiteSpace (u ++ a.chars ++ v ++ d :: (w ++ b.chars ++ z)) =
      a.chars ++ v ++ d :: (w ++ b.chars) := by
    have hcut : u ++ a.chars ++ v ++ d :: (w ++ b.chars ++ z) =
        u ++ (a.chars ++ (v ++ d :: w) ++ b.chars) ++ z := by simp
    have hmiddle : a.chars ++ v ++ d :: (w ++ b.chars) = a.chars ++ (v ++ d :: w) ++ b.chars := by simp
    rw [hcut, trimList_append hu hz, hmiddle]
    apply trimList_eq_self
    · intro c hc
      rw [List.append_assoc, List.head?_append_of_ne_nil _ a.chars_ne_nil] at hc
      exact a.not_isWhiteSpace (List.mem_of_mem_head? hc)
    · intro c hc
      rw [List.getLast?_append_of_ne_nil _ b.chars_ne_nil] at hc
      exact b.not_isWhiteSpace (List.mem_of_getLast? hc)
  have htail : ∀ c ∈ (a.chars ++ v).tail, ¬isDash c := by
    rw [List.tail_append_of_ne_nil a.chars_ne_nil, List.forall_mem_append]
    exact ⟨fun c => a.not_isDash_of_mem_tail, fun c => hbefore.not_isDash⟩
  rw [readRange_of_plain (by rwa [String.toList_ofList]), toList_trim, String.toList_ofList, htrim,
    readDashed_append (by simp [a.chars_ne_nil]) htail hd, readSides_eq _ _ hx hy]
  · rfl
  · rw [List.filter_append, hbefore.filter, List.append_nil, a.filter_chars]
  · rw [List.filter_append, hbehind.filter, List.nil_append, b.filter_chars]

def minusFive : Numeral :=
  { sign := some '-', whole := ['5'], mark := none, fraction := [] }

def minusTwoAndAHalf : Numeral :=
  { sign := some '-', whole := ['2'], mark := some ',', fraction := ['5'] }

theorem lt_overflow_minusFive : minusFive.amount < overflow :=
  minusFive.isFinite_double.1 (by decide +kernel)

theorem lt_overflow_minusTwoAndAHalf : minusTwoAndAHalf.amount < overflow :=
  minusTwoAndAHalf.isFinite_double.1 (by decide +kernel)

theorem readRange_dashed_negative :
    minusFive.amount < overflow ∧ minusTwoAndAHalf.amount < overflow ∧ isDash '\u2014' ∧
      ∃ x y, readNumber "-5" = some x ∧ readNumber "-2,5" = some y ∧
        readRange "en-US" " -5 \u2014\t-2,5" = some (x, y) := by
  have hdash : isDash '\u2014' := by decide
  have hblank : ∀ c ∈ [' '] ++ [' '] ++ ['\t'] ++ [], isWhiteSpace c :=
    List.all_eq_true.1 (by decide +kernel)
  have hrange := readRange_dashed minusFive minusTwoAndAHalf lt_overflow_minusFive
    lt_overflow_minusTwoAndAHalf hdash hblank "en-US"
  have hfive : minusFive.text = "-5" := by decide +kernel
  have htwo : minusTwoAndAHalf.text = "-2,5" := by decide +kernel
  have htext : String.ofList ([' '] ++ minusFive.chars ++ [' '] ++
      '\u2014' :: (['\t'] ++ minusTwoAndAHalf.chars ++ [])) = " -5 \u2014\t-2,5" := by decide +kernel
  rw [hfive, htwo, htext] at hrange
  exact ⟨lt_overflow_minusFive, lt_overflow_minusTwoAndAHalf, hdash, hrange⟩

/-! Words. -/

section

variable {front gap : List Char}

/-- Words before a minus are no bound. -/
theorem readDashed_of_minus (hfront : Wordy front) (hne : front ≠ []) (ha : a.sign = some '-')
    (l : List Char) : readDashed (front ++ a.chars ++ l) = none := by
  have hnumber : readNumber (String.ofList front) = none := by
    apply readNumber_eq_none
    intro c hc hdigit
    rw [String.toList_ofList] at hc
    have hnumeral : c ∈ front.filter isNumeral := List.mem_filter.2 ⟨hc, by simp [isNumeral, hdigit]⟩
    rw [hfront.filter] at hnumeral
    cases hnumeral
  have htail : ∀ c ∈ front.tail, ¬isDash c := fun c hc => hfront.not_isDash (List.mem_of_mem_tail hc)
  have hcut : front ++ a.chars ++ l = front ++ '-' :: (a.unsigned.chars ++ l) := by
    simp [a.chars_eq, ha]
  rw [hcut, readDashed_append hne htail (by decide), readSides, hnumber]
  split <;> rfl

theorem not_isDash_of_mem_tail_words (hfront : Wordy front) (hgap : Wordy gap)
    (ha : front = [] ∨ a.sign ≠ some '-') : ∀ c ∈ (front ++ a.chars ++ gap).tail, ¬isDash c := by
  rcases ha with rfl | ha
  · rw [List.nil_append, List.tail_append_of_ne_nil a.chars_ne_nil, List.forall_mem_append]
    exact ⟨fun c => a.not_isDash_of_mem_tail, fun c => hgap.not_isDash⟩
  · intro c hc
    have hmem := List.mem_of_mem_tail hc
    rw [List.mem_append, List.mem_append] at hmem
    rcases hmem with (hc | hc) | hc
    · exact hfront.not_isDash hc
    · exact Numeral.not_isDash_of_mem ha hc
    · exact hgap.not_isDash hc

/-- The minus of the second numeral is taken for a dash, unless one stands before it behind words. -/
theorem readDashed_words (hfront : Wordy front) (hgap : Wordy gap) (ha : readNumber a.text = some x)
    {z : Float} (hb : b.sign = some '-' → readNumber b.unsigned.text = some z) :
    readDashed (front ++ a.chars ++ gap ++ b.chars) =
      if b.sign = some '-' ∧ (front = [] ∨ a.sign ≠ some '-') then some (x, z) else none := by
  have hnumerals : (front ++ a.chars ++ gap).filter isNumeral = a.chars := by
    rw [List.filter_append, List.filter_append, hfront.filter, hgap.filter, a.filter_chars,
      List.nil_append, List.append_nil]
  have hne : front ++ a.chars ++ gap ≠ [] := by simp [a.chars_ne_nil]
  by_cases hminus : front = [] ∨ a.sign ≠ some '-'
  · have htail := not_isDash_of_mem_tail_words hfront hgap hminus
    split
    · rename_i htakes
      have hcut : b.chars = '-' :: b.unsigned.chars := by rw [b.chars_eq, htakes.1]; rfl
      rw [hcut, readDashed_append hne htail (by decide),
        readSides_eq hnumerals b.unsigned.filter_chars ha (hb htakes.1)]
    · rename_i htakes
      have hsign : b.sign ≠ some '-' := fun hsign => htakes ⟨hsign, hminus⟩
      apply readDashed_eq_none
      rw [List.tail_append_of_ne_nil hne, List.forall_mem_append]
      exact ⟨htail, fun c => Numeral.not_isDash_of_mem hsign⟩
  · rw [if_neg fun htakes => hminus htakes.2]
    push Not at hminus
    rw [List.append_assoc]
    exact readDashed_of_minus hfront hminus.1 hminus.2 _

end

/-- The word before the bounds, with a blank behind it. -/
def opening (lead : Option String) : List Char :=
  lead.elim [] fun k => k.toList ++ [' ']

theorem wordy_of_mem {k : String}
    (h : k ∈ (rangeWords locale).leads ++ (rangeWords locale).connectors) : Wordy k.toList :=
  fun c hc => .inr (List.all_eq_true.1 (forall_rangeWords letterWords.words locale k h) c hc)

theorem wordy_spaced {k : String}
    (h : k ∈ (rangeWords locale).leads ++ (rangeWords locale).connectors) : Wordy (k.toList ++ [' ']) := by
  have hspace : Wordy [' '] := by
    intro c hc
    rw [List.mem_singleton.1 hc]
    exact .inl (by decide)
  exact List.forall_mem_append.2 ⟨wordy_of_mem h, hspace⟩

theorem wordy_opening {lead : Option String} (h : ∀ k ∈ lead, k ∈ (rangeWords locale).leads) :
    Wordy (opening lead) := by
  cases lead with
  | none => exact List.forall_mem_nil _
  | some k => exact wordy_spaced (List.mem_append_left _ (h k rfl))

theorem opening_eq_nil_iff {lead : Option String} : opening lead = [] ↔ lead = none := by
  cases lead <;> simp [opening]

theorem toList_unwords_spoken (lead : Option String) (connector : String) (a b : Numeral) :
    (unwords (lead.toList ++ [a.text, connector, b.text])).toList =
      opening lead ++ a.chars ++ ' ' :: (connector.toList ++ [' ']) ++ b.chars := by
  have hbounds : (unwords [a.text, connector, b.text]).toList =
      a.chars ++ ' ' :: (connector.toList ++ [' ']) ++ b.chars := by
    rw [unwords_cons_cons, unwords_cons_cons, unwords, String.intercalate_singleton]
    simp [Numeral.text]
  cases lead with
  | none => exact hbounds
  | some k =>
    rw [Option.toList_some, List.singleton_append, unwords_cons_cons, String.toList_append, hbounds]
    simp [opening]

theorem readSpoken_numerals {lead : Option String} {connector : String}
    (hlead : ∀ k ∈ lead, k ∈ (rangeWords locale).leads)
    (hconnector : connector ∈ (rangeWords locale).connectors) (ha : readNumber a.text = some x)
    (hb : readNumber b.text = some y) :
    readSpoken (rangeWords locale) (lead.toList ++ [a.text, connector, b.text]) = some (x, y) := by
  have hconnected : readConnected (rangeWords locale).connectors [a.text, connector, b.text] =
      some (x, y) := by
    rw [readConnected, if_pos (List.contains_iff_mem.2 hconnector), ha, hb]
    rfl
  cases lead with
  | none =>
    have hfirst : ¬(rangeWords locale).leads.contains a.text := by
      rw [List.contains_iff_mem]
      intro hmem
      have hfilter := (wordy_of_mem (List.mem_append_left _ hmem)).filter
      rw [a.filter_text] at hfilter
      exact a.chars_ne_nil hfilter
    rw [Option.toList_none, List.nil_append, readSpoken_cons, if_neg hfirst, hconnected]
  | some k =>
    rw [Option.toList_some, List.singleton_append, readSpoken_cons,
      if_pos (List.contains_iff_mem.2 (hlead k rfl)), hconnected]

/-- Whether the minus of the second numeral is the first dash behind the first character. -/
def TakesMinus (lead : Option String) (a b : Numeral) : Prop :=
  b.sign = some '-' ∧ (lead = none ∨ a.sign ≠ some '-')

/-- Two numerals in the words of a range are its bounds, unless the minus of the second is taken for a
dash: that one loses its sign then. -/
theorem readRange_spoken {lead : Option String} {connector : String}
    (hlead : ∀ k ∈ lead, k ∈ (rangeWords locale).leads)
    (hconnector : connector ∈ (rangeWords locale).connectors) (ha : readNumber a.text = some x)
    (hb : readNumber b.text = some y) (hwords : words raw = lead.toList ++ [a.text, connector, b.text]) :
    (readRange locale raw = some (x, y) ↔ ¬TakesMinus lead a b) ∧
      (TakesMinus lead a b →
        ∃ z, readNumber b.unsigned.text = some z ∧ readRange locale raw = some (x, z)) := by
  have hsolid : ∀ w ∈ lead.toList ++ [a.text, connector, b.text], Solid w :=
    fun w hw => solid_of_mem_words (hwords ▸ hw)
  have hgap : Wordy (' ' :: (connector.toList ++ [' '])) :=
    List.forall_mem_cons.2 ⟨.inl (by decide), wordy_spaced (List.mem_append_right _ hconnector)⟩
  have htakes_iff :
      (b.sign = some '-' ∧ (opening lead = [] ∨ a.sign ≠ some '-')) ↔ TakesMinus lead a b := by
    rw [opening_eq_nil_iff]
    rfl
  have hplain : ∀ c ∈ (unwords (lead.toList ++ [a.text, connector, b.text])).toList,
      isWhiteSpace c ∨ plainBits.testBit c.toNat := by
    rw [toList_unwords_spoken]
    simp only [List.forall_mem_append]
    exact ⟨⟨⟨(wordy_opening hlead).plain, a.plain⟩, hgap.plain⟩, b.plain⟩
  have hread : readRange locale raw =
      (readDashed (opening lead ++ a.chars ++ ' ' :: (connector.toList ++ [' ']) ++ b.chars)).or
        (some (x, y)) := by
    rw [← readRange_unwords_words, hwords, readRange_of_plain hplain, trim_unwords hsolid,
      words_unwords hsolid, toList_unwords_spoken, readSpoken_numerals hlead hconnector ha hb]
  obtain ⟨z, hz⟩ : ∃ z, b.sign = some '-' → readNumber b.unsigned.text = some z ∧ z ≠ y := by
    by_cases hsign : b.sign = some '-'
    · obtain ⟨z, hz⟩ := Numeral.exists_readNumber_unsigned hsign hb
      exact ⟨z, fun _ => hz⟩
    · exact ⟨y, fun h => absurd h hsign⟩
  rw [hread, readDashed_words (wordy_opening hlead) hgap ha fun hsign => (hz hsign).1]
  by_cases htakes : TakesMinus lead a b
  · obtain ⟨hnumber, hne⟩ := hz htakes.1
    rw [if_pos (htakes_iff.2 htakes), Option.some_or]
    exact ⟨iff_of_false (by simpa using hne) (not_not_intro htakes), fun _ => ⟨z, hnumber, rfl⟩⟩
  · rw [if_neg (htakes_iff.not.2 htakes), Option.none_or]
    exact ⟨iff_of_true rfl htakes, fun h => absurd h htakes⟩

/-- With a word before the bounds both keep their minus. -/
theorem readRange_spoken_between :
    (∀ k ∈ some "entre", k ∈ (rangeWords "es").leads) ∧ "y" ∈ (rangeWords "es").connectors ∧
      readRange "es" "entre -5 y -2,5" = some (minusFive.double, minusTwoAndAHalf.double) := by
  have hlead : ∀ k ∈ some "entre", k ∈ (rangeWords "es").leads := by decide +kernel
  have hconnector : "y" ∈ (rangeWords "es").connectors := by decide +kernel
  have hwords : words "entre -5 y -2,5" =
      (some "entre").toList ++ [minusFive.text, "y", minusTwoAndAHalf.text] := by decide +kernel
  have hrange := readRange_spoken hlead hconnector (Numeral.readNumber_text lt_overflow_minusFive)
    (Numeral.readNumber_text lt_overflow_minusTwoAndAHalf) hwords
  have hkeeps : ¬TakesMinus (some "entre") minusFive minusTwoAndAHalf := by
    rintro ⟨-, hnone | hsign⟩
    · cases hnone
    · exact hsign rfl
  exact ⟨hlead, hconnector, hrange.1.2 hkeeps⟩

def ten : Numeral :=
  { sign := none, whole := ['1', '0'], mark := none, fraction := [] }

/-- Without one the second bound loses its minus. -/
theorem exists_readRange_spoken_ne :
    "y" ∈ (rangeWords "es").connectors ∧ words "10 y -5" = [ten.text, "y", minusFive.text] ∧
      ∃ x y, readNumber ten.text = some x ∧ readNumber minusFive.text = some y ∧
        readRange "es" "10 y -5" ≠ some (x, y) :=
  ⟨by decide +kernel, by decide +kernel, ten.double, minusFive.double, by decide +kernel,
    by decide +kernel, by decide +kernel⟩

end Parlance.Slot
