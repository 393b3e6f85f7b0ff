import Parlance.Proofs.Unicode.Folding

/-!
Texts in lower case. Main statements: `lowered_of_mem_lowercase`, that no character of such a text would
be turned to lower case again, and `lowercase_of_lowered`, that so the text stays as it is.
-/

namespace Parlance.Unicode

/-- A character that turning a text to lower case leaves alone, whatever stands around it. -/
def Lowered (c : Char) : Prop :=
  c ≠ 'Σ' ∧ lowercaseChar c = [c]

instance : DecidablePred Lowered := fun c =>
  inferInstanceAs (Decidable (c ≠ 'Σ' ∧ lowercaseChar c = [c]))

variable {c d : Char} {l : List Char}

/-- What is checked of the table entry by entry. -/
structure LowercaseChecks : Prop where
  /-- Nothing is mapped to what turning to lower case changes. -/
  images : lowercaseShifts.images &&& (lowercaseShifts.sources ||| 1 <<< 'İ'.toNat) = 0
  /-- The table tells the lower case of the letters of ASCII too. -/
  ascii : ∀ n ∈ List.range 0x80,
    (Char.ofNat n).toLower.toNat = (lowercaseShifts.shift? n).getD n
  sigma : lowercaseShifts.shift? 'Σ'.toNat ≠ none
  /-- What turning to lower case makes without the table, or where the table tells no character. -/
  lowered : Lowered 'i' ∧ Lowered '\u0307' ∧ Lowered 'σ' ∧ Lowered 'ς' ∧ Lowered '\x00'

theorem lowercaseChecks : LowercaseChecks := by
  constructor <;> decide +kernel

/-! Characters. -/

theorem lowercaseChar_of_ne (h : c ≠ 'İ') :
    lowercaseChar c = [Char.ofNat ((lowercaseShifts.shift? c.toNat).getD c.toNat)] := by
  rw [lowercaseChar, if_neg h]
  split
  · rename_i hascii
    have hlower := lowercaseChecks.ascii c.toNat (List.mem_range.2 hascii)
    rw [Char.ofNat_toNat] at hlower
    rw [← hlower, Char.ofNat_toNat]
  · cases lowercaseShifts.shift? c.toNat with
    | none => rw [Option.getD_none, Char.ofNat_toNat]
    | some n => rfl

example : lowercaseChar 'É' = ['é'] := by
  decide +kernel

theorem lowered_of_shift?_eq_none (h : c ≠ 'İ') (hnone : lowercaseShifts.shift? c.toNat = none) :
    Lowered c := by
  refine ⟨?_, by rw [lowercaseChar_of_ne h, hnone, Option.getD_none, Char.ofNat_toNat]⟩
  rintro rfl
  exact lowercaseChecks.sigma hnone

/-- What the table maps to is in lower case. -/
theorem shift?_of_shift? {m n : Nat} (h : lowercaseShifts.shift? m = some n) :
    lowercaseShifts.shift? n = none ∧ n ≠ 'İ'.toNat := by
  have hmiss := not_testBit_of_and_eq_zero lowercaseChecks.images (testBit_of_shift? h).2
  rw [Nat.testBit_or, Bool.or_eq_true, not_or] at hmiss
  obtain ⟨hsource, hdot⟩ := hmiss
  refine ⟨shift?_eq_none hsource, ?_⟩
  rintro rfl
  exact hdot (testBit_one_shiftLeft_self _)

theorem lowered_of_shift?_eq_some {m n : Nat} (h : lowercaseShifts.shift? m = some n) :
    Lowered (Char.ofNat n) := by
  obtain ⟨hnone, hdot⟩ := shift?_of_shift? h
  obtain hchar | hzero := toNat_ofNat n
  · rw [← hchar] at hnone hdot
    exact lowered_of_shift?_eq_none (fun hdotted => hdot (congrArg Char.toNat hdotted)) hnone
  · -- the table tells no character
    obtain ⟨-, -, -, -, hnull⟩ := lowercaseChecks.lowered
    rwa [← Char.ofNat_toNat (Char.ofNat _), hzero]

theorem lowered_of_mem_lowercaseChar (hd : d ∈ lowercaseChar c) : Lowered d := by
  by_cases hdotted : c = 'İ'
  · obtain ⟨hi, hdot, -⟩ := lowercaseChecks.lowered
    rw [hdotted, lowercaseChar, if_neg (by decide), if_pos rfl, List.mem_cons, List.mem_singleton] at hd
    rcases hd with rfl | rfl
    · exact hi
    · exact hdot
  · rw [lowercaseChar_of_ne hdotted, List.mem_singleton] at hd
    cases hshift : lowercaseShifts.shift? c.toNat with
    | none =>
      rw [hd, hshift, Option.getD_none, Char.ofNat_toNat]
      exact lowered_of_shift?_eq_none hdotted hshift
    | some n =>
      rw [hd, hshift, Option.getD_some]
      exact lowered_of_shift?_eq_some hshift

theorem lowered_of_mem_lowercaseFrom {casedBefore : Bool} (hd : d ∈ lowercaseFrom casedBefore l) :
    Lowered d := by
  obtain ⟨-, -, hsigma, hfinal, -⟩ := lowercaseChecks.lowered
  induction l generalizing casedBefore with
  | nil => cases hd
  | cons c l ih =>
    rw [lowercaseFrom] at hd
    rcases List.mem_append.1 hd with hd | hd
    · split at hd
      · split at hd <;> rw [List.mem_singleton.1 hd]
        · exact hfinal
        · exact hsigma
      · exact lowered_of_mem_lowercaseChar hd
    · exact ih hd

theorem lowered_of_mem_lowercase (hd : d ∈ lowercase l) : Lowered d :=
  lowered_of_mem_lowercaseFrom hd

theorem lowercaseFrom_of_lowered (h : ∀ c ∈ l, Lowered c) (casedBefore : Bool) :
    lowercaseFrom casedBefore l = l := by
  induction l generalizing casedBefore with
  | nil => rfl
  | cons c l ih =>
    obtain ⟨⟨hne, hchar⟩, hrest⟩ := List.forall_mem_cons.1 h
    rw [lowercaseFrom, if_neg hne, hchar, ih hrest, List.singleton_append]

theorem lowercase_of_lowered (h : ∀ c ∈ l, Lowered c) : lowercase l = l :=
  lowercaseFrom_of_lowered h false

/-! Lengths. -/

theorem length_lowercaseChar_le (c : Char) : (lowercaseChar c).length ≤ 2 := by
  unfold lowercaseChar
  split
  · exact Nat.le_succ 1
  · split
    · exact Nat.le_refl 2
    · split <;> exact Nat.le_succ 1

theorem length_lowercaseFrom_le (casedBefore : Bool) (l : List Char) :
    (lowercaseFrom casedBefore l).length ≤ 2 * l.length := by
  induction l generalizing casedBefore with
  | nil => exact Nat.le_refl 0
  | cons c l ih =>
    have hrest := ih (if isCaseIgnorable c then casedBefore else isCased c)
    have hchar := length_lowercaseChar_le c
    rw [lowercaseFrom, List.length_append, List.length_cons]
    split
    · rw [List.length_singleton]
      omega
    · omega

theorem length_lowercase_le (l : List Char) : (lowercase l).length ≤ 2 * l.length :=
  length_lowercaseFrom_le false l

end Parlance.Unicode
