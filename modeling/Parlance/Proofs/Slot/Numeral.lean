import Parlance.Proofs.Double.Decimal
import Parlance.Proofs.Slot.Respelling

/-!
Decimal numerals and the numbers read of them. Main statements: `Numeral.isSome_readNumber_iff`, which
numerals have a number; and `readNumber_eq_none`, that without a digit there is none.
-/

namespace Parlance.Slot

open Text Unicode Double

/-- Digits, with a sign before them or not, and with a mark among them or not. -/
structure Numeral where
  sign : Option Char
  whole : List Char
  mark : Option Char
  fraction : List Char
  sign_mem : ∀ c ∈ sign, c = '-' ∨ c = '+' := by simp
  mark_mem : ∀ c ∈ mark, c = '.' ∨ c = ',' := by simp
  isDigit : ∀ c ∈ whole ++ fraction, c.isDigit := by simp
  digits_ne_nil : whole ++ fraction ≠ [] := by simp
  fraction_eq_nil : mark = none → fraction = [] := by simp

variable {raw : String}

namespace Numeral

variable {n : Numeral} {c : Char}

theorem isSign_none : ∀ c ∈ (none : Option Char), c = '-' ∨ c = '+' :=
  nofun

def unsigned (n : Numeral) : Numeral :=
  { n with
    sign := none
    sign_mem := isSign_none }

def chars (n : Numeral) : List Char :=
  n.sign.toList ++ (n.whole ++ (n.mark.toList ++ n.fraction))

def text (n : Numeral) : String :=
  String.ofList n.chars

/-- The number, its sign left aside. -/
def amount (n : Numeral) : ℚ :=
  Decimal.digitsValue (n.whole ++ n.fraction) / 10 ^ n.fraction.length

def amountDouble (n : Numeral) : Float :=
  Decimal.scaled (Decimal.digitsValue (n.whole ++ n.fraction)) (-n.fraction.length)

/-- The double nearest to the number, infinite if that is too large. -/
def double (n : Numeral) : Float :=
  if n.sign = some '-' then -n.amountDouble else n.amountDouble

theorem chars_eq (n : Numeral) : n.chars = n.sign.toList ++ n.unsigned.chars :=
  rfl

theorem mem_unsigned_chars (h : c ∈ n.unsigned.chars) : c.isDigit ∨ c = '.' ∨ c = ',' := by
  simp only [chars, unsigned, Option.toList_none, List.nil_append, List.mem_append,
    Option.mem_toList] at h
  rcases h with h | h | h
  · exact .inl (n.isDigit c (List.mem_append_left _ h))
  · exact .inr (n.mark_mem c h)
  · exact .inl (n.isDigit c (List.mem_append_right _ h))

theorem isNumeral_of_mem_chars (h : c ∈ n.chars) : isNumeral c := by
  rw [chars_eq, List.mem_append, Option.mem_toList] at h
  rcases h with h | h
  · rcases n.sign_mem c h with rfl | rfl <;> decide
  · rcases mem_unsigned_chars h with h | rfl | rfl
    · simp [isNumeral, h]
    · decide
    · decide

theorem filter_chars (n : Numeral) : n.chars.filter isNumeral = n.chars :=
  List.filter_eq_self.2 fun _ => isNumeral_of_mem_chars

theorem chars_ne_nil (n : Numeral) : n.chars ≠ [] := by
  intro h
  obtain ⟨-, hwhole, -, hfraction⟩ := by simpa only [chars, List.append_eq_nil_iff] using h
  exact n.digits_ne_nil (List.append_eq_nil_iff.2 ⟨hwhole, hfraction⟩)

theorem not_isDash_of_mem_unsigned (h : c ∈ n.unsigned.chars) : ¬isDash c := by
  rcases mem_unsigned_chars h with h | rfl | rfl
  · intro hdash
    simp only [isDash, Bool.or_eq_true, decide_eq_true_eq] at hdash
    rcases hdash with (rfl | rfl) | rfl <;> exact absurd h (by decide)
  · decide
  · decide

/-- The sign is the only dash of a numeral, if it is one. -/
theorem not_isDash_of_mem_tail (h : c ∈ n.chars.tail) : ¬isDash c := by
  apply not_isDash_of_mem_unsigned (n := n)
  rw [chars_eq] at h
  cases hsign : n.sign with
  | none =>
    rw [hsign] at h
    exact List.mem_of_mem_tail h
  | some s =>
    rw [hsign] at h
    exact h

theorem not_isDash_of_mem (hsign : n.sign ≠ some '-') (h : c ∈ n.chars) : ¬isDash c := by
  rw [chars_eq, List.mem_append, Option.mem_toList] at h
  rcases h with h | h
  · rcases n.sign_mem c h with rfl | rfl
    · exact absurd h hsign
    · decide
  · exact not_isDash_of_mem_unsigned h

/-! What is read of numerals. -/

/-- The digits, with a point for the mark. -/
def pointed (n : Numeral) : List Char :=
  n.whole ++ ((n.mark.map fun _ => '.').toList ++ n.fraction)

theorem map_eq_self {l : List Char} (h : ∀ c ∈ l, c ≠ ',') :
    (l.map fun c => if c = ',' then '.' else c) = l := by
  rw [List.map_congr_left fun c hc => if_neg (h c hc), List.map_id']

theorem map_chars (n : Numeral) :
    (n.chars.map fun c => if c = ',' then '.' else c) = n.sign.toList ++ n.pointed := by
  have hdigit : ∀ c ∈ n.whole ++ n.fraction, c ≠ ',' := by
    rintro _ hc rfl
    exact absurd (n.isDigit _ hc) (by decide)
  have hsign : ∀ c ∈ n.sign.toList, c ≠ ',' := by
    intro c hc
    rcases n.sign_mem c (Option.mem_toList.1 hc) with rfl | rfl <;> decide
  have hmark : (n.mark.toList.map fun c => if c = ',' then '.' else c) =
      (n.mark.map fun _ => '.').toList := by
    cases hmark : n.mark with
    | none => rfl
    | some c => rcases n.mark_mem c hmark with rfl | rfl <;> rfl
  obtain ⟨hwhole, hfraction⟩ := List.forall_mem_append.1 hdigit
  rw [chars, pointed, List.map_append, List.map_append, List.map_append, hmark, map_eq_self hsign,
    map_eq_self hwhole, map_eq_self hfraction]

theorem unsigned?_pointed (n : Numeral) : Decimal.unsigned? n.pointed = some n.amountDouble := by
  obtain ⟨hwhole, hfraction⟩ := List.forall_mem_append.1 n.isDigit
  have hne := n.digits_ne_nil
  cases hmark : n.mark with
  | none =>
    have hnil := n.fraction_eq_nil hmark
    rw [hnil, List.append_nil] at hne
    simp [Decimal.unsigned?, pointed, amountDouble, hmark, hnil, hne,
      List.takeWhile_eq_self_iff.2 hwhole]
  | some c =>
    have htake : (n.whole ++ '.' :: n.fraction).takeWhile Char.isDigit = n.whole := by
      rw [List.takeWhile_append_of_pos hwhole, List.takeWhile_cons_of_neg (by decide), List.append_nil]
    have hall : n.fraction.all Char.isDigit := List.all_eq_true.2 hfraction
    have hsome : (n.whole.isEmpty && n.fraction.isEmpty) = false := by
      simpa [List.append_eq_nil_iff] using hne
    simp [Decimal.unsigned?, pointed, amountDouble, hmark, htake, hall, hsome]

theorem signed?_of_head {l : List Char} (h : ∀ c ∈ l.head?, c ≠ '-' ∧ c ≠ '+') :
    Decimal.signed? l = Decimal.unsigned? l := by
  unfold Decimal.signed?
  split
  · exact absurd rfl (h '-' rfl).1
  · exact absurd rfl (h '+' rfl).2
  · rfl

theorem head?_pointed (n : Numeral) : ∀ c ∈ n.pointed.head?, c ≠ '-' ∧ c ≠ '+' := by
  intro c hc
  have hmem : c ∈ n.pointed := List.mem_of_head? hc
  simp only [pointed, List.mem_append, Option.mem_toList, Option.map_eq_some_iff] at hmem
  have hdigit (h : c.isDigit) : c ≠ '-' ∧ c ≠ '+' :=
    ⟨by rintro rfl; exact absurd h (by decide), by rintro rfl; exact absurd h (by decide)⟩
  rcases hmem with h | ⟨_, -, rfl⟩ | h
  · exact hdigit (n.isDigit c (List.mem_append_left _ h))
  · decide
  · exact hdigit (n.isDigit c (List.mem_append_right _ h))

theorem signed?_append_pointed (n : Numeral) :
    Decimal.signed? (n.sign.toList ++ n.pointed) = some n.double := by
  rw [double]
  cases hsign : n.sign with
  | none =>
    rw [Option.toList_none, List.nil_append, signed?_of_head n.head?_pointed, unsigned?_pointed]
    rfl
  | some c =>
    rcases n.sign_mem c hsign with rfl | rfl
    · change (Decimal.unsigned? n.pointed).map _ = _
      rw [unsigned?_pointed]
      rfl
    · change Decimal.unsigned? n.pointed = _
      rw [unsigned?_pointed]
      rfl

/-- A text with the characters of a numeral among others is read as the numeral. -/
theorem readNumber_eq (h : raw.toList.filter isNumeral = n.chars) :
    readNumber raw = (some n.double).filter Float.isFinite := by
  rw [readNumber, filter_numeral, h, map_chars, signed?_append_pointed]

theorem isFinite_double (n : Numeral) : n.double.isFinite ↔ n.amount < overflow := by
  have hscaled : n.amountDouble.isFinite ↔ n.amount < overflow := isFinite_scaled _ _
  have hneg : (-n.amountDouble).isFinite = n.amountDouble.isFinite := isFinite_neg _
  rw [double]
  split
  · rwa [hneg]
  · exact hscaled

/-- The numerals that have a number are those that no infinity is nearest to. -/
theorem isSome_readNumber_iff (h : raw.toList.filter isNumeral = n.chars) :
    (readNumber raw).isSome ↔ n.amount < overflow := by
  rw [readNumber_eq h, ← isFinite_double, Option.isSome_filter]
  simp

theorem filter_text (n : Numeral) : n.text.toList.filter isNumeral = n.chars := by
  rw [text, String.toList_ofList, filter_chars]

theorem readNumber_text (h : n.amount < overflow) : readNumber n.text = some n.double := by
  rw [readNumber_eq n.filter_text, Option.filter_some, if_pos (n.isFinite_double.2 h)]

/-- Without its minus a numeral has another number. -/
theorem exists_readNumber_unsigned {y : Float} (hsign : n.sign = some '-') (h : readNumber n.text = some y) :
    ∃ z, readNumber n.unsigned.text = some z ∧ z ≠ y := by
  have hamount : n.amount < overflow :=
    (isSome_readNumber_iff n.filter_text).1 (Option.isSome_of_eq_some h)
  have hunsigned : n.unsigned.double = n.amountDouble := if_neg nofun
  have hsigned : n.double = n.amountDouble.neg := if_pos hsign
  have hfinite : n.amountDouble.isFinite := by
    rw [← hunsigned, isFinite_double]
    exact hamount
  refine ⟨n.amountDouble, ?_, ?_⟩
  · rw [readNumber_text (n := n.unsigned) hamount, hunsigned]
  · rw [readNumber_text hamount, hsigned] at h
    rw [← Option.some.inj h]
    exact (neg_ne_self (isNaN_of_isFinite hfinite)).symm

end Numeral

theorem unsigned?_eq_none {l : List Char} (h : ∀ c ∈ l, ¬c.isDigit) : Decimal.unsigned? l = none := by
  have htake : l.takeWhile Char.isDigit = [] := by
    cases l with
    | nil => rfl
    | cons c l => exact List.takeWhile_cons_of_neg (h c List.mem_cons_self)
  rw [Decimal.unsigned?, htake]
  dsimp only [List.length_nil]
  split
  · rfl
  · rename_i fraction hl
    rw [List.drop_zero] at hl
    rw [if_neg]
    cases fraction with
    | nil => decide
    | cons c l => simp [h c (by simp [hl])]
  · rfl

theorem signed?_eq_none {l : List Char} (h : ∀ c ∈ l, ¬c.isDigit) : Decimal.signed? l = none := by
  unfold Decimal.signed?
  split
  · rw [unsigned?_eq_none fun c hc => h c (List.mem_cons_of_mem _ hc)]
    rfl
  · exact unsigned?_eq_none fun c hc => h c (List.mem_cons_of_mem _ hc)
  · exact unsigned?_eq_none h

/-- Without a digit no number is read. -/
theorem readNumber_eq_none (h : ∀ c ∈ raw.toList, ¬c.isDigit) : readNumber raw = none := by
  have hkept : ∀ c ∈ (raw.toList.filter isNumeral).map fun c => if c = ',' then '.' else c,
      ¬c.isDigit := by
    intro d hd
    obtain ⟨c, hc, rfl⟩ := List.mem_map.1 hd
    split
    · decide
    · exact h c (List.mem_of_mem_filter hc)
  rw [readNumber, filter_numeral, signed?_eq_none hkept]
  rfl

end Parlance.Slot
