import Parlance.Proofs.Unicode.Classes
import Parlance.Unicode.Decomposition

/-!
Hangul. Main statements: `Syllable.exists_letters`, that a syllable is joined again of the letters it is
taken apart into; `exists_go`, that nothing is left to join in what is joined; and `composeHangul_map` and
`composeHangul_append_cons`, that joining has nothing to do with other characters.
-/

namespace Parlance.Unicode

variable {c d : Char} {l : List Char} {n m k : Nat}

/-! Letters and syllables. -/

/-- The letters that syllables are made of, and the syllables. -/
def hangulBits : Nat :=
  intervalBits 0x1100 0x1113 ||| intervalBits 0x1161 0x1176 ||| intervalBits 0x11A8 0x11C3 |||
    intervalBits 0xAC00 0xD7A4

theorem testBit_hangulBits : hangulBits.testBit n ↔
    ((0x1100 ≤ n ∧ n < 0x1113 ∨ 0x1161 ≤ n ∧ n < 0x1176) ∨ 0x11A8 ≤ n ∧ n < 0x11C3) ∨
      0xAC00 ≤ n ∧ n < 0xD7A4 := by
  simp only [hangulBits, Nat.testBit_or, Bool.or_eq_true, testBit_intervalBits]

/-- A character that is a Hangul syllable. -/
def Syllable (c : Char) : Prop :=
  0xAC00 ≤ c.toNat ∧ c.toNat < 0xD7A4

/-- A character that is the first letter of Hangul syllables. -/
def Lead (c : Char) : Prop :=
  0x1100 ≤ c.toNat ∧ c.toNat < 0x1113

/-- Two characters that are not joined. -/
def Apart (c d : Char) : Prop :=
  Hangul.compose? c.toNat d.toNat = none

theorem Syllable.testBit (h : Syllable c) : hangulBits.testBit c.toNat :=
  testBit_hangulBits.2 (.inr h)

theorem not_syllable_of_testBit {bits : Nat} (h : bits &&& hangulBits = 0) (hc : bits.testBit c.toNat) :
    ¬Syllable c :=
  fun hsyllable => not_testBit_of_and_eq_zero h hc hsyllable.testBit

theorem decompose?_eq_none (h : ¬Syllable c) : Hangul.decompose? c.toNat = none := by
  unfold Syllable at h
  unfold Hangul.decompose?
  rw [if_neg]
  simp only [Hangul.syllableBase, Hangul.leadCount, Hangul.vowelCount, Hangul.tailCount]
  omega

/-- Letters are joined with letters, to a syllable. -/
theorem hangul_of_compose? (h : Hangul.compose? n m = some k) :
    hangulBits.testBit n ∧ hangulBits.testBit m ∧ Syllable (Char.ofNat k) := by
  have hrange : hangulBits.testBit n ∧ hangulBits.testBit m ∧ 0xAC00 ≤ k ∧ k < 0xD7A4 := by
    simp only [testBit_hangulBits]
    unfold Hangul.compose? at h
    split at h
    · rename_i hletters
      simp only [Hangul.leadBase, Hangul.leadCount, Hangul.vowelBase, Hangul.vowelCount] at hletters
      obtain rfl := Option.some.inj h
      simp only [Hangul.syllableBase, Hangul.leadBase, Hangul.vowelBase, Hangul.vowelCount,
        Hangul.tailCount]
      omega
    · split at h
      · rename_i hletters
        simp only [Hangul.syllableBase, Hangul.leadCount, Hangul.vowelCount, Hangul.tailCount,
          Hangul.tailBase] at hletters
        obtain rfl := Option.some.inj h
        simp only [Hangul.tailBase]
        omega
      · cases h
  obtain ⟨hn, hm, hlow, hhigh⟩ := hrange
  refine ⟨hn, hm, ?_⟩
  rw [Syllable, toNat_ofNat_of_isValidChar (Or.inl (by omega))]
  exact ⟨hlow, hhigh⟩

/-- What is no Hangul is not joined. -/
theorem apart_of_not_hangul (h : ¬hangulBits.testBit c.toNat ∨ ¬hangulBits.testBit d.toNat) : Apart c d := by
  rw [Apart, Option.eq_none_iff_forall_ne_some]
  intro n hn
  obtain ⟨hc, hd, -⟩ := hangul_of_compose? hn
  exact h.elim (· hc) (· hd)

/-- A syllable or a first letter is not joined to what stands before it. -/
theorem apart_of_first (h : Syllable d ∨ Lead d) (c : Char) : Apart c d := by
  unfold Syllable Lead at h
  unfold Apart Hangul.compose?
  rw [if_neg, if_neg]
  · simp only [Hangul.tailBase, Hangul.tailCount]
    omega
  · simp only [Hangul.vowelBase, Hangul.vowelCount]
    omega

/-! A syllable and its letters, which it numbers in the order of the first letter, the vowel and the tail. -/

theorem compose?_letters {k v : Nat} (hk : k < 19) (hv : v < 21) :
    Hangul.compose? (0x1100 + k) (0x1161 + v) = some (0xAC00 + (k * 21 + v) * 28) := by
  unfold Hangul.compose?
  rw [if_pos]
  · simp only [Hangul.leadBase, Hangul.vowelBase, Hangul.vowelCount, Hangul.syllableBase,
      Hangul.tailCount, Nat.add_sub_cancel_left]
  · simp only [Hangul.leadBase, Hangul.leadCount, Hangul.vowelBase, Hangul.vowelCount]
    omega

theorem compose?_tail {k t : Nat} (hk : k < 399) (ht : 0 < t) (ht' : t < 28) :
    Hangul.compose? (0xAC00 + k * 28) (0x11A7 + t) = some (0xAC00 + k * 28 + t) := by
  unfold Hangul.compose?
  rw [if_neg, if_pos]
  · simp only [Hangul.tailBase, Nat.add_sub_cancel_left]
  · simp only [Hangul.syllableBase, Hangul.leadCount, Hangul.vowelCount, Hangul.tailCount,
      Hangul.tailBase]
    omega
  · simp only [Hangul.leadBase, Hangul.leadCount]
    omega

theorem decompose?_letters {k v t : Nat} (hk : k < 19) (hv : v < 21) (ht : t < 28) :
    Hangul.decompose? (0xAC00 + (k * 21 + v) * 28 + t) =
      some ([0x1100 + k, 0x1161 + v] ++ if t = 0 then [] else [0x11A7 + t]) := by
  have hindex : 0xAC00 + (k * 21 + v) * 28 + t - Hangul.syllableBase = 588 * k + 28 * v + t := by
    simp only [Hangul.syllableBase]
    omega
  have hlead : (588 * k + 28 * v + t) / (Hangul.vowelCount * Hangul.tailCount) = k := by
    simp only [Hangul.vowelCount, Hangul.tailCount]
    omega
  have hvowel : (588 * k + 28 * v + t) % (Hangul.vowelCount * Hangul.tailCount) / Hangul.tailCount = v := by
    simp only [Hangul.vowelCount, Hangul.tailCount]
    omega
  have htail : (588 * k + 28 * v + t) % Hangul.tailCount = t := by
    simp only [Hangul.tailCount]
    omega
  unfold Hangul.decompose?
  rw [if_pos]
  · rw [hindex]
    dsimp only
    rw [hlead, hvowel, htail]
    split <;> rfl
  · simp only [Hangul.syllableBase, Hangul.leadCount, Hangul.vowelCount, Hangul.tailCount]
    omega

/-- The letters of a syllable: the first is the first letter of a syllable, and joined with the others
it is the syllable again. -/
theorem Syllable.exists_letters (h : Syllable c) : ∃ d tail, decomposeChar c = d :: tail ∧ Lead d ∧
    (∀ e ∈ d :: tail, hangulBits.testBit e.toNat) ∧
    ∀ rest, composeHangul.go d (tail ++ rest) = composeHangul.go c rest := by
  obtain ⟨hlow, hhigh⟩ := h
  obtain ⟨k, v, t, hk, hv, ht, hc⟩ : ∃ k v t, k < 19 ∧ v < 21 ∧ t < 28 ∧
      c.toNat = 0xAC00 + (k * 21 + v) * 28 + t :=
    ⟨(c.toNat - 0xAC00) / 588, (c.toNat - 0xAC00) % 588 / 28, (c.toNat - 0xAC00) % 28,
      by omega, by omega, by omega, by omega⟩
  have hlead : (Char.ofNat (0x1100 + k)).toNat = 0x1100 + k :=
    toNat_ofNat_of_isValidChar (Or.inl (by omega))
  have hvowel : (Char.ofNat (0x1161 + v)).toNat = 0x1161 + v :=
    toNat_ofNat_of_isValidChar (Or.inl (by omega))
  have htail : (Char.ofNat (0x11A7 + t)).toNat = 0x11A7 + t :=
    toNat_ofNat_of_isValidChar (Or.inl (by omega))
  have hopen : (Char.ofNat (0xAC00 + (k * 21 + v) * 28)).toNat = 0xAC00 + (k * 21 + v) * 28 :=
    toNat_ofNat_of_isValidChar (Or.inl (by omega))
  have hletters : decomposeChar c =
      Char.ofNat (0x1100 + k) :: Char.ofNat (0x1161 + v) ::
        if t = 0 then [] else [Char.ofNat (0x11A7 + t)] := by
    unfold decomposeChar
    rw [if_neg (by omega), hc, decompose?_letters hk hv ht]
    dsimp only
    split <;> rfl
  refine ⟨_, _, hletters, ?_, ?_, fun rest => ?_⟩
  · rw [Lead, hlead]
    omega
  · simp only [List.forall_mem_cons, testBit_hangulBits, hlead, hvowel]
    refine ⟨by omega, by omega, fun e he => ?_⟩
    split at he
    · cases he
    · rw [List.mem_singleton.1 he, htail]
      omega
  · rw [List.cons_append, composeHangul.go, hlead, hvowel, compose?_letters hk hv]
    dsimp only
    by_cases hzero : t = 0
    · rw [if_pos hzero, List.nil_append]
      rw [hzero, Nat.add_zero] at hc
      rw [← hc, Char.ofNat_toNat]
    · rw [if_neg hzero, List.singleton_append, composeHangul.go, hopen, htail,
        compose?_tail (by omega) (by omega) ht]
      dsimp only
      rw [← hc, Char.ofNat_toNat]

theorem Syllable.testBit_of_mem (h : Syllable c) (hd : d ∈ decomposeChar c) :
    hangulBits.testBit d.toNat := by
  obtain ⟨e, tail, hletters, -, hhangul, -⟩ := h.exists_letters
  rw [hletters] at hd
  exact hhangul d hd

/-! Joining. -/

/-- What is joined begins as it did or with a syllable, and nothing is left to join. -/
theorem exists_go (c : Char) (l : List Char) : ∃ d rest, composeHangul.go c l = d :: rest ∧
    (d = c ∨ Syllable d) ∧ (d :: rest).IsChain Apart := by
  induction l generalizing c with
  | nil => exact ⟨c, [], rfl, .inl rfl, .singleton c⟩
  | cons e l ih =>
    rw [composeHangul.go]
    split
    · rename_i n hn
      obtain ⟨d, rest, hgo, hd, hchain⟩ := ih (Char.ofNat n)
      refine ⟨d, rest, hgo, .inr ?_, hchain⟩
      rcases hd with rfl | hd
      · exact (hangul_of_compose? hn).2.2
      · exact hd
    · rename_i hnone
      obtain ⟨d, rest, hgo, hd, hchain⟩ := ih e
      refine ⟨c, d :: rest, by rw [hgo], .inl rfl, .cons_cons ?_ hchain⟩
      rcases hd with rfl | hd
      · exact hnone
      · exact apart_of_first (.inl hd) c

theorem mem_go (h : d ∈ composeHangul.go c l) : d ∈ c :: l ∨ Syllable d := by
  induction l generalizing c with
  | nil => exact .inl h
  | cons e l ih =>
    rw [composeHangul.go] at h
    split at h
    · rename_i n hn
      rcases ih h with hmem | hd
      · rcases List.mem_cons.1 hmem with rfl | hmem
        · exact .inr (hangul_of_compose? hn).2.2
        · exact .inl (by simp [hmem])
      · exact .inr hd
    · rcases List.mem_cons.1 h with rfl | h
      · exact .inl List.mem_cons_self
      · rcases ih h with hmem | hd
        · exact .inl (List.mem_cons_of_mem _ hmem)
        · exact .inr hd

/-- Joining leaves alone a text with nothing to join. -/
theorem composeHangul_of_apart (h : l.IsChain Apart) : composeHangul l = l := by
  cases l with
  | nil => rfl
  | cons c l =>
    rw [composeHangul]
    induction l generalizing c with
    | nil => rfl
    | cons d l ih =>
      obtain ⟨hapart, hrest⟩ := List.isChain_cons_cons.1 h
      rw [composeHangul.go, hapart]
      exact congrArg (c :: ·) (ih d hrest)

/-- What leaves the letters of Hangul alone can be done before they are joined. -/
theorem composeHangul_map {f : Char → Char}
    (hf : ∀ c, hangulBits.testBit c.toNat ∨ hangulBits.testBit (f c).toNat → f c = c) (l : List Char) :
    composeHangul (l.map f) = (composeHangul l).map f := by
  cases l with
  | nil => rfl
  | cons c l =>
    rw [List.map_cons, composeHangul, composeHangul]
    induction l generalizing c with
    | nil => rfl
    | cons d l ih =>
      rw [List.map_cons, composeHangul.go, composeHangul.go]
      cases hjoined : Hangul.compose? c.toNat d.toNat with
      | some n =>
        obtain ⟨hc, hd, hn⟩ := hangul_of_compose? hjoined
        rw [hf c (.inl hc), hf d (.inl hd), hjoined]
        dsimp only
        rw [← ih, hf (Char.ofNat n) (.inl hn.testBit)]
      | none =>
        have hapart : Hangul.compose? (f c).toNat (f d).toNat = none := by
          rw [Option.eq_none_iff_forall_ne_some]
          intro n hn
          obtain ⟨hc, hd, -⟩ := hangul_of_compose? hn
          rw [hf c (.inr hc), hf d (.inr hd), hjoined] at hn
          cases hn
        rw [hapart]
        dsimp only
        rw [ih, List.map_cons]

theorem go_append_cons (hd : ¬hangulBits.testBit d.toNat) (c : Char) (x y : List Char) :
    composeHangul.go c (x ++ d :: y) = composeHangul.go c x ++ composeHangul (d :: y) := by
  induction x generalizing c with
  | nil =>
    have hapart : Hangul.compose? c.toNat d.toNat = none := apart_of_not_hangul (.inr hd)
    rw [List.nil_append, composeHangul.go, composeHangul.go, hapart]
    rfl
  | cons e x ih =>
    rw [List.cons_append, composeHangul.go, composeHangul.go]
    cases Hangul.compose? c.toNat e.toNat with
    | some n => exact ih (Char.ofNat n)
    | none => exact congrArg (c :: ·) (ih e)

/-- Nothing is joined across a character that is no Hangul. -/
theorem composeHangul_append_cons (hd : ¬hangulBits.testBit d.toNat) (x y : List Char) :
    composeHangul (x ++ d :: y) = composeHangul x ++ d :: composeHangul y := by
  have hcons : composeHangul (d :: y) = d :: composeHangul y := by
    cases y with
    | nil => rfl
    | cons e y =>
      have hapart : Hangul.compose? d.toNat e.toNat = none := apart_of_not_hangul (.inl hd)
      rw [composeHangul, composeHangul.go, hapart]
      rfl
  rw [← hcons]
  cases x with
  | nil => rfl
  | cons c x => exact go_append_cons hd c x y

end Parlance.Unicode
