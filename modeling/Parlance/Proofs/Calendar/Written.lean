import Mathlib.Algebra.Group.Nat.Defs
import Mathlib.Data.List.TakeWhile
import Parlance.Calendar.Date

/-!
Dates written out and read. Main statements: `read?_text`, that a date is read back from its written
form, also where its year has a sign or more than four digits; and `isDateChar_of_read?`, that dates are
read of digits, signs and blanks alone.
-/

namespace Parlance.Calendar.Date

open Unicode

variable {width most n : Nat} {l r : List Char}

/-- A digit is neither blank nor a sign nor a dash. -/
theorem notBlank_of_isDigit {c : Char} (h : c.isDigit) :
    ¬isWhiteSpace c ∧ c ≠ '-' ∧ c ≠ '+' := by
  have hnum := Char.isDigit_iff_toNat.1 h
  refine ⟨?_, ?_, ?_⟩
  · simp only [isWhiteSpace, decide_eq_true_eq]
    have h0 : '0'.toNat = 48 := rfl
    have h9 : '9'.toNat = 57 := rfl
    omega
  · rintro rfl
    exact absurd h (by decide)
  · rintro rfl
    exact absurd h (by decide)

/-! Numbers. -/

theorem toList_padded (width n : Nat) :
    (padded width n).toList =
      List.replicate (width - (Nat.toDigits 10 n).length) '0' ++ Nat.toDigits 10 n := by
  rw [padded, String.toList_ofList]

theorem isDigit_of_mem_padded {c : Char} (h : c ∈ (padded width n).toList) : c.isDigit := by
  rw [toList_padded, List.mem_append] at h
  rcases h with h | h
  · rw [List.eq_of_mem_replicate h]
    rfl
  · exact Nat.isDigit_of_mem_toDigits (by decide) (by decide) h

theorem padded_ne_nil (width n : Nat) : (padded width n).toList ≠ [] := by
  rw [toList_padded]
  exact List.append_ne_nil_of_right_ne_nil _ Nat.toDigits_ne_nil

theorem length_padded_le (hw : 0 < width) (h : n < 10 ^ width) :
    (padded width n).toList.length ≤ width := by
  have hlen := (Nat.length_toDigits_le_iff (b := 10) (by decide) hw).2 h
  rw [toList_padded, List.length_append, List.length_replicate]
  omega

theorem foldl_padded (width n : Nat) :
    (padded width n).toList.foldl (fun n c => n * 10 + (c.toNat - 48)) 0 = n := by
  have hfold : ∀ l : List Char,
      l.foldl (fun n c => n * 10 + (c.toNat - 48)) 0 = Nat.ofDigitChars 10 l 0 := by
    intro l
    rw [Nat.ofDigitChars_eq_foldl]
    congr
    funext n c
    rw [Nat.mul_comm]
    rfl
  rw [hfold, toList_padded, Nat.ofDigitChars_append, Nat.ofDigitChars_replicate_zero, Nat.mul_zero,
    Nat.ofDigitChars_ten_toDigits]

theorem readNumber_padded (hlen : (padded width n).toList.length ≤ most)
    (hr : ∀ c ∈ r.head?, ¬c.isDigit) :
    readNumber most ((padded width n).toList ++ r) = some (n, r) := by
  have hdigits : ∀ c ∈ (padded width n).toList, c.isDigit := fun c hc => isDigit_of_mem_padded hc
  have hrest : (r.take (most - (padded width n).toList.length)).takeWhile Char.isDigit = [] := by
    cases r with
    | nil => simp
    | cons c r =>
      cases most - (padded width n).toList.length with
      | zero => rfl
      | succ k => rw [List.take_succ_cons, List.takeWhile_cons_of_neg (hr c rfl)]
  have htake : (((padded width n).toList ++ r).take most).takeWhile Char.isDigit =
      (padded width n).toList := by
    rw [List.take_append, List.take_of_length_le hlen, List.takeWhile_append_of_pos hdigits, hrest,
      List.append_nil]
  rw [readNumber, htake, if_neg (by simpa using padded_ne_nil width n), foldl_padded,
    List.drop_left]

theorem skipBlanks_padded (width n : Nat) (r : List Char) :
    skipBlanks ((padded width n).toList ++ r) = (padded width n).toList ++ r := by
  obtain ⟨c, l, hl⟩ := List.exists_cons_of_ne_nil (padded_ne_nil width n)
  have hc : c.isDigit := isDigit_of_mem_padded (hl ▸ List.mem_cons_self)
  rw [hl, List.cons_append, skipBlanks, List.dropWhile_cons_of_neg (notBlank_of_isDigit hc).1]

/-! Years. -/

/-- A text that starts with a digit is read as a year of four digits. -/
theorem readYear_of_isDigit {c : Char} (hc : c.isDigit) (l : List Char) :
    readYear (c :: l) = (readNumber 4 (c :: l)).map fun (n, rest) => ((n : Int), rest) := by
  obtain ⟨hblank, hminus, hplus⟩ := notBlank_of_isDigit hc
  unfold readYear
  rw [skipBlanks, List.dropWhile_cons_of_neg hblank]
  split
  · rename_i heq
    exact absurd (List.cons.inj heq).1 hminus
  · rename_i heq
    exact absurd (List.cons.inj heq).1 hplus
  · rfl

theorem readYear_yearText (year : Int) (hr : ∀ c ∈ r.head?, ¬c.isDigit) :
    readYear ((yearText year).toList ++ r) = some (year, r) := by
  have hsigned : readNumber ((padded 4 year.natAbs).toList ++ r).length
      ((padded 4 year.natAbs).toList ++ r) = some (year.natAbs, r) :=
    readNumber_padded (by simp) hr
  unfold yearText
  split
  · rename_i hyear
    obtain ⟨c, l, hl⟩ := List.exists_cons_of_ne_nil (padded_ne_nil 4 year.toNat)
    have hc : c.isDigit := isDigit_of_mem_padded (hl ▸ List.mem_cons_self)
    have hnumber : readNumber 4 ((padded 4 year.toNat).toList ++ r) = some (year.toNat, r) :=
      readNumber_padded (length_padded_le (by decide) (by omega)) hr
    rw [hl, List.cons_append] at hnumber
    rw [hl, List.cons_append, readYear_of_isDigit hc, hnumber, Option.map_some]
    simp only [Int.toNat_of_nonneg hyear.1]
  · split
    · rename_i hneg
      have hblank : skipBlanks ('-' :: ((padded 4 year.natAbs).toList ++ r)) =
          '-' :: ((padded 4 year.natAbs).toList ++ r) := rfl
      have hvalue : -(year.natAbs : Int) = year := by omega
      rw [String.toList_append, show "-".toList = ['-'] from rfl, List.singleton_append,
        List.cons_append]
      unfold readYear
      rw [hblank]
      simp only [hsigned, Option.map_some, hvalue]
    · have hblank : skipBlanks ('+' :: ((padded 4 year.natAbs).toList ++ r)) =
          '+' :: ((padded 4 year.natAbs).toList ++ r) := rfl
      have hvalue : (year.natAbs : Int) = year := by omega
      rw [String.toList_append, show "+".toList = ['+'] from rfl, List.singleton_append,
        List.cons_append]
      unfold readYear
      rw [hblank]
      simp only [hsigned, Option.map_some, hvalue]

/-! Dates. -/

theorem of?_eq_some (d : Date) : of? d.year d.month d.day = some d := by
  rw [of?, dif_pos d.isDate]

theorem month_lt (d : Date) : d.month < 10 ^ 2 := by
  have hmonth := d.isDate.2.2.2.1
  omega

theorem day_lt (d : Date) : d.day < 10 ^ 2 := by
  have hmonth : daysInMonth d.year d.month ≤ 31 := by
    unfold daysInMonth
    split
    case h_5 => split <;> decide
    all_goals decide
  have hday := d.isDate.2.2.2.2.2
  omega

theorem toList_text (d : Date) :
    d.text.toList = (yearText d.year).toList ++
      '-' :: ((padded 2 d.month).toList ++ '-' :: ((padded 2 d.day).toList ++ [])) := by
  simp [text]

/-- A date is read back from its written form. -/
theorem read?_text (spaced : Bool) (d : Date) : read? spaced d.text = some d := by
  have hdash : ∀ (l : List Char), ∀ c ∈ ('-' :: l).head?, ¬c.isDigit := by
    rintro l c ⟨⟩
    decide
  have hgap : ∀ l : List Char,
      (if spaced then skipBlanks ('-' :: l) else '-' :: l) = '-' :: l := by
    intro l
    cases spaced <;> rfl
  have hyear := readYear_yearText d.year
    (r := '-' :: ((padded 2 d.month).toList ++ '-' :: ((padded 2 d.day).toList ++ []))) (hdash _)
  have hmonth : readNumber 2 ((padded 2 d.month).toList ++ '-' :: ((padded 2 d.day).toList ++ [])) =
      some (d.month, '-' :: ((padded 2 d.day).toList ++ [])) :=
    readNumber_padded (length_padded_le (by decide) d.month_lt) (hdash _)
  have hday : readNumber 2 ((padded 2 d.day).toList ++ []) = some (d.day, []) :=
    readNumber_padded (length_padded_le (by decide) d.day_lt) (by simp)
  have hend : (if spaced then skipBlanks [] else []) = ([] : List Char) := by
    cases spaced <;> rfl
  unfold read?
  simp only [toList_text, hyear, Option.bind_eq_bind, Option.bind_some, hgap, readDash,
    skipBlanks_padded, hmonth, hday, hend, List.isEmpty_nil, ↓reduceIte, of?_eq_some]

/-! Characters. -/

/-- A character that may stand in the written form of a date. -/
def IsDateChar (c : Char) : Prop :=
  c.isDigit ∨ c = '-' ∨ c = '+' ∨ Unicode.isWhiteSpace c

instance : DecidablePred IsDateChar := fun c =>
  inferInstanceAs (Decidable (c.isDigit ∨ _))

/-- What has been read up to the rest of a text may stand in a date. -/
def Read (l r : List Char) : Prop :=
  ∃ x, l = x ++ r ∧ ∀ c ∈ x, IsDateChar c

theorem Read.trans {l r r' : List Char} (h : Read l r) (h' : Read r r') : Read l r' := by
  obtain ⟨x, rfl, hx⟩ := h
  obtain ⟨y, rfl, hy⟩ := h'
  exact ⟨x ++ y, (List.append_assoc x y r').symm, List.forall_mem_append.2 ⟨hx, hy⟩⟩

theorem Read.cons {c : Char} {l r : List Char} (hc : IsDateChar c) (h : Read l r) : Read (c :: l) r := by
  obtain ⟨x, rfl, hx⟩ := h
  exact ⟨c :: x, rfl, List.forall_mem_cons.2 ⟨hc, hx⟩⟩

theorem read_skipBlanks (l : List Char) : Read l (skipBlanks l) :=
  ⟨l.takeWhile Unicode.isWhiteSpace, List.takeWhile_append_dropWhile.symm,
    fun _ hc => .inr (.inr (.inr (List.mem_takeWhile_imp hc)))⟩

theorem read_of_readNumber {most n : Nat} {l r : List Char} (h : readNumber most l = some (n, r)) :
    Read l r := by
  have hpart : (l.take most).takeWhile Char.isDigit <+: l :=
    (List.takeWhile_prefix _).trans (List.take_prefix most l)
  unfold readNumber at h
  dsimp only at h
  split at h
  · cases h
  · cases h
    exact ⟨_, (List.prefix_iff_eq_append.1 hpart).symm, fun c hc => .inl (List.mem_takeWhile_imp hc)⟩

theorem read_of_readYear {year : Int} {l r : List Char} (h : readYear l = some (year, r)) : Read l r := by
  apply (read_skipBlanks l).trans
  unfold readYear at h
  split at h
  · rename_i rest hsign
    obtain ⟨⟨n, r'⟩, hnumber, heq⟩ := Option.map_eq_some_iff.1 h
    cases heq
    rw [hsign]
    exact (read_of_readNumber hnumber).cons (.inr (.inl rfl))
  · rename_i rest hsign
    obtain ⟨⟨n, r'⟩, hnumber, heq⟩ := Option.map_eq_some_iff.1 h
    cases heq
    rw [hsign]
    exact (read_of_readNumber hnumber).cons (.inr (.inr (.inl rfl)))
  · obtain ⟨⟨n, r'⟩, hnumber, heq⟩ := Option.map_eq_some_iff.1 h
    cases heq
    exact read_of_readNumber hnumber

theorem read_of_readDash {l r : List Char} (h : readDash l = some r) : Read l r := by
  unfold readDash at h
  split at h
  · cases h
    exact ⟨['-'], rfl, by simp [IsDateChar]⟩
  · cases h

/-- What is read as a date is made of digits, signs and blanks. -/
theorem isDateChar_of_read? {s : String} {d : Date} (h : read? false s = some d) :
    ∀ c ∈ s.toList, IsDateChar c := by
  obtain ⟨⟨year, l₁⟩, hyear, h⟩ := Option.bind_eq_some_iff.1 h
  obtain ⟨l₂, hdash, h⟩ := Option.bind_eq_some_iff.1 h
  obtain ⟨⟨month, l₃⟩, hmonth, h⟩ := Option.bind_eq_some_iff.1 h
  obtain ⟨l₄, hdash', h⟩ := Option.bind_eq_some_iff.1 h
  obtain ⟨⟨day, l₅⟩, hday, h⟩ := Option.bind_eq_some_iff.1 h
  have hend : l₅ = [] := by
    by_contra hne
    dsimp only at h
    rw [if_neg (by simpa using hne)] at h
    cases h
  have hread : Read s.toList l₅ :=
    (((((read_of_readYear hyear).trans (read_of_readDash hdash)).trans (read_skipBlanks l₂)).trans
      (read_of_readNumber hmonth)).trans (read_of_readDash hdash')).trans
        ((read_skipBlanks l₄).trans (read_of_readNumber hday))
  obtain ⟨x, hx, hall⟩ := hread
  rw [hx, hend, List.append_nil]
  exact hall

end Parlance.Calendar.Date
