import Mathlib
import Parlance.Proofs.Unicode.Lookup
import Parlance.Unicode.Case

/-!
Simple case folding and blanks. Main statement: `isWhiteSpace_simpleFold`, that folding makes no blank
and unmakes none.
-/

namespace Parlance.Unicode

/-- The stretches of code points that are blanks. -/
def blankRanges : List (Nat × Nat) :=
  [(0x09, 0x0D), (0x20, 0x20), (0x85, 0x85), (0xA0, 0xA0), (0x1680, 0x1680), (0x2000, 0x200A),
    (0x2028, 0x2029), (0x202F, 0x202F), (0x205F, 0x205F), (0x3000, 0x3000)]

theorem isWhiteSpace_iff {c : Char} :
    isWhiteSpace c ↔ ∃ r ∈ blankRanges, r.1 ≤ c.toNat ∧ c.toNat ≤ r.2 := by
  simp only [isWhiteSpace, blankRanges, List.mem_cons, List.not_mem_nil, or_false, exists_eq_or_imp,
    exists_eq_left, decide_eq_true_eq]
  omega

/-- The blanks as bits. -/
def blankBits : Nat :=
  unionBits (fun r => stretchBits r.1 1 (r.2 + 1 - r.1)) blankRanges

theorem testBit_blankBits {c : Char} (h : isWhiteSpace c) : blankBits.testBit c.toNat := by
  obtain ⟨r, hr, hlo, hhi⟩ := isWhiteSpace_iff.1 h
  refine testBit_unionBits hr ?_
  have hbit : (stretchBits r.1 1 (r.2 + 1 - r.1)).testBit (r.1 + 1 * (c.toNat - r.1)) :=
    testBit_stretchBits (by omega)
  rwa [Nat.one_mul, Nat.add_sub_cancel' hlo] at hbit

/-- What is checked of the table, and of the letters of ASCII one by one. -/
structure FoldChecks : Prop where
  sources : foldShifts.sources &&& blankBits = 0
  images : foldShifts.images &&& blankBits = 0
  ascii : ∀ n ∈ List.range 0x80, isWhiteSpace (Char.ofNat n).toLower = isWhiteSpace (Char.ofNat n) ∧
    (isWhiteSpace (Char.ofNat n) → (Char.ofNat n).toLower = Char.ofNat n)

theorem foldChecks : FoldChecks := by
  constructor <;> decide +kernel

theorem toNat_ofNat (n : Nat) : (Char.ofNat n).toNat = n ∨ (Char.ofNat n).toNat = 0 := by
  unfold Char.ofNat
  split
  · exact .inl rfl
  · exact .inr rfl

theorem toNat_ofNat_of_isValidChar {n : Nat} (h : n.isValidChar) : (Char.ofNat n).toNat = n := by
  unfold Char.ofNat
  rw [dif_pos h]
  rfl

/-- A table whose images keep apart from the blanks maps nothing to a blank. -/
theorem not_isWhiteSpace_of_shift? {t : Table Shift} (h : t.images &&& blankBits = 0) {c n : Nat}
    (hn : t.shift? c = some n) : ¬isWhiteSpace (Char.ofNat n) := by
  intro hblank
  obtain hchar | hzero := toNat_ofNat n
  · have hbit := testBit_blankBits hblank
    rw [hchar] at hbit
    exact not_testBit_of_and_eq_zero h (testBit_of_shift? hn).2 hbit
  · simp [isWhiteSpace, hzero] at hblank

/-- A table whose sources keep apart from the blanks leaves them alone. -/
theorem shift?_of_isWhiteSpace {t : Table Shift} (h : t.sources &&& blankBits = 0) {c : Char}
    (hc : isWhiteSpace c) : t.shift? c.toNat = none :=
  shift?_eq_none_of_testBit h (testBit_blankBits hc)

theorem simpleFold_of_isWhiteSpace {c : Char} (h : isWhiteSpace c) : simpleFold c = c := by
  unfold simpleFold
  split
  · rename_i hc
    have hlower := (foldChecks.ascii c.toNat (List.mem_range.2 hc)).2
    rw [Char.ofNat_toNat] at hlower
    exact hlower h
  · rw [shift?_of_isWhiteSpace foldChecks.sources h]

theorem not_isWhiteSpace_simpleFold {c : Char} (h : ¬isWhiteSpace c) :
    ¬isWhiteSpace (simpleFold c) := by
  unfold simpleFold
  split
  · rename_i hc
    have hlower := (foldChecks.ascii c.toNat (List.mem_range.2 hc)).1
    rw [Char.ofNat_toNat] at hlower
    rwa [hlower]
  · split
    · exact not_isWhiteSpace_of_shift? foldChecks.images ‹_›
    · exact h

/-- Folding makes no blank and unmakes none. -/
theorem isWhiteSpace_simpleFold (c : Char) : isWhiteSpace (simpleFold c) = isWhiteSpace c := by
  by_cases h : isWhiteSpace c
  · rw [simpleFold_of_isWhiteSpace h]
  · rw [Bool.not_eq_true] at h
    simpa [h] using not_isWhiteSpace_simpleFold (c := c) (by simp [h])

example : simpleFold 'É' = 'é' := by
  decide +kernel

end Parlance.Unicode
