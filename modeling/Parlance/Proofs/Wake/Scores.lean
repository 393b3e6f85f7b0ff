import Parlance.Proofs.Similarity.Score
import Parlance.Proofs.Text.Lengths
import Parlance.Proofs.Wake.Windows

/-!
The scores of windows. Main statements: `share_windowScore`, that they lie between zero and one;
`windowScore_lt_one`, that among short texts only equality scores one; and `folded_unwords`, that folded
words are in lower case and of bounded length, so that doubles tell likeness from equality.
-/

namespace Parlance

namespace Phonetic

open Text

theorem length_code_le (w : String) : (code w).toList.length ≤ 4 := by
  rw [code, String.toList_ofList]
  exact List.length_take_le _ _

theorem weight_le_of_length_le {n : Nat} {ws : List String} (h : ∀ w ∈ ws, w.toList.length ≤ n) :
    weight ws ≤ (n + 1) * ws.length := by
  induction ws with
  | nil => exact Nat.zero_le _
  | cons w ws ih =>
    obtain ⟨hw, hws⟩ := List.forall_mem_cons.1 h
    have hrest := ih hws
    rw [weight_cons, List.length_cons, Nat.mul_succ]
    omega

/-- A key has a code of up to four characters for each word. -/
theorem length_key_le (s locale : String) : (key s locale).toList.length ≤ 5 * (s.toList.length + 1) := by
  let folded := ((words s).map foldToken).filter (· ≠ "")
  let codes := (folded.map fun w => code (respell locale w)).filter (· ≠ "")
  have hcode : ∀ w ∈ codes, w.toList.length ≤ 4 := by
    intro w hw
    obtain ⟨v, -, rfl⟩ := List.mem_map.1 (List.mem_of_mem_filter hw)
    exact length_code_le _
  have hcodes : codes.length ≤ (words s).length := by
    calc codes.length ≤ (folded.map fun w => code (respell locale w)).length := List.length_filter_le _ _
      _ = folded.length := List.length_map _
      _ ≤ ((words s).map foldToken).length := List.length_filter_le _ _
      _ = (words s).length := List.length_map _
  have hwords := (length_le_weight (words s)).trans (weight_words_le s)
  calc (key s locale).toList.length ≤ weight codes := length_unwords_le codes
    _ ≤ 5 * codes.length := weight_le_of_length_le hcode
    _ ≤ 5 * (s.toList.length + 1) := Nat.mul_le_mul_left 5 (hcodes.trans hwords)

end Phonetic

namespace Wake

open Text Unicode Double

/-- A text short enough for doubles to tell the likeness of its words to others from one. -/
def Short (s : String) : Prop :=
  s.toList.length < 2 ^ 45

/-- A text that can be addressed with 64 bits. -/
def Storable (s : String) : Prop :=
  s.toList.length < 2 ^ 64

/-- A text of up to `n` characters that turning to lower case leaves alone. -/
structure Folded (n : Nat) (s : String) : Prop where
  lowered : ∀ c ∈ s.toList, Lowered c
  length_le : s.toList.length ≤ n

variable {u form : String} {ws : List String} {k n : Nat}

theorem folded_unwords (hu : u.toList.length < k) (h : ws.Sublist ((words u).map foldToken)) :
    Folded (16 * k) (unwords ws) where
  lowered := by
    apply lowered_unwords
    intro w hw
    obtain ⟨v, -, rfl⟩ := List.mem_map.1 (h.subset hw)
    exact lowered_foldToken v
  length_le := by
    have hfolded := weight_map_foldToken_le (words u)
    have hwords := weight_words_le u
    calc (unwords ws).toList.length ≤ weight ws := length_unwords_le ws
      _ ≤ weight ((words u).map foldToken) := weight_le_of_sublist h
      _ ≤ 16 * k := by omega

theorem folded_window (hu : u.toList.length < k) (form : String) (start : Nat) :
    Folded (16 * k) (unwords (window (inputTokens u) form start)) :=
  folded_unwords hu ((List.take_sublist _ _).trans (List.drop_sublist _ _))

theorem folded_form (hform : form.toList.length < k) : Folded (16 * k) (unwords (formTokens form)) :=
  folded_unwords hform List.filter_sublist

namespace Folded

variable {s t : String}

theorem lowercase_eq (h : Folded n s) : lowercase s.toList = s.toList :=
  lowercase_of_lowered h.lowered

theorem measured (h : Folded n s) (hn : n ≤ 2 ^ 49) : Measured s := by
  have hlength := h.length_le
  unfold Measured
  rw [h.lowercase_eq]
  omega

theorem sized (h : Folded n s) (hn : n ≤ 2 ^ 68) : Sized s := by
  have hlength := h.length_le
  unfold Sized
  rw [h.lowercase_eq]
  omega

theorem sized_key (h : Folded n s) (hn : n ≤ 2 ^ 68) (locale : String) :
    Sized (Phonetic.key s locale) := by
  have hlength := h.length_le
  have hkey := Phonetic.length_key_le s locale
  have hlower := length_lowercase_le (Phonetic.key s locale).toList
  unfold Sized
  omega

theorem similarity_lt_one (hs : Folded n s) (ht : Folded n t) (hn : n ≤ 2 ^ 49) (hne : s ≠ t) :
    similarity s t < 1.0 := by
  apply Parlance.similarity_lt_one (hs.measured hn) (ht.measured hn)
  rw [hs.lowercase_eq, ht.lowercase_eq]
  exact fun h => hne (String.toList_injective h)

end Folded

/-! Phonetic scores. -/

theorem share_phoneticWeight : Share phoneticWeight := by
  have hamount : Amount phoneticWeight := ⟨by decide, by decide⟩
  have hle : magnitude phoneticWeight ≤ magnitude 1.0 := by decide
  exact ⟨hamount, (value_le_of_magnitude_le hle).trans value_one.le⟩

theorem mul_phoneticWeight_lt_one {x : Float} (h : Share x) : x * phoneticWeight < 1.0 := by
  have hround := rounds_mul h.amount share_phoneticWeight.amount
  have hle : value x * value phoneticWeight ≤ value phoneticWeight :=
    mul_le_of_le_one_left (value_nonneg _) h.value_le
  have hplace := hround.place_le share_phoneticWeight.amount.rounds hle
  rw [lt_iff_place_lt hround.isNaN amount_one.isNaN]
  exact hplace.trans_lt (by decide)

variable {s t locale : String}

theorem share_phoneticScore (hs : Folded n s) (ht : Folded n t) (hn : n ≤ 2 ^ 68) (locale : String) :
    Share (phoneticScore locale s t) ∧ phoneticScore locale s t < 1.0 := by
  have hkeys := share_similarity (hs.sized_key hn locale) (ht.sized_key hn locale)
  unfold phoneticScore
  dsimp only
  split
  · exact ⟨share_zero, by decide⟩
  · split
    · exact ⟨share_phoneticWeight, by decide⟩
    · exact ⟨hkeys.mul share_phoneticWeight, mul_phoneticWeight_lt_one hkeys⟩

/-! Scores of windows. -/

variable {o : Options} {score : Float} {via : Via}

theorem windowScore_self (o : Options) (s : String) : windowScore o s s = some (1.0, .exact) :=
  if_pos rfl

/-- Texts that are not equal are scored by their likeness or by that of their sounds. -/
theorem score_of_windowScore (hne : s ≠ t) (h : windowScore o s t = some (score, via)) :
    score = similarity s t ∨ score = phoneticScore o.locale s t := by
  rw [windowScore, if_neg hne] at h
  dsimp only at h
  split at h
  · cases h
  · exact .inl (Prod.mk.inj (Option.some.inj h)).1.symm
  · exact .inr (Prod.mk.inj (Option.some.inj h)).1.symm
  · split at h
    · exact .inr (Prod.mk.inj (Option.some.inj h)).1.symm
    · exact .inl (Prod.mk.inj (Option.some.inj h)).1.symm

/-- Scores lie between zero and one. -/
theorem share_windowScore (hs : Folded n s) (ht : Folded n t) (hn : n ≤ 2 ^ 68)
    (h : windowScore o s t = some (score, via)) : Share score := by
  by_cases hsame : s = t
  · rw [hsame, windowScore_self] at h
    obtain ⟨rfl, -⟩ := Prod.mk.inj (Option.some.inj h)
    exact share_one
  · rcases score_of_windowScore hsame h with rfl | rfl
    · exact share_similarity (hs.sized hn) (ht.sized hn)
    · exact (share_phoneticScore hs ht hn o.locale).1

theorem Hears.share (h : Hears o (inputTokens u) form start score via) (hu : Storable u)
    (hform : Storable form) : Share score :=
  share_windowScore (folded_window hu form start) (folded_form hform) (by decide) h.scored

/-- Only equality scores one. -/
theorem windowScore_lt_one (hs : Folded n s) (ht : Folded n t) (hn : n ≤ 2 ^ 49) (hne : s ≠ t)
    (h : windowScore o s t = some (score, via)) : score < 1.0 := by
  rcases score_of_windowScore hne h with rfl | rfl
  · exact hs.similarity_lt_one ht hn hne
  · exact (share_phoneticScore hs ht (hn.trans (by decide)) o.locale).2

/-- Only equality is exact. -/
theorem eq_of_windowScore_exact (h : windowScore o s t = some (score, .exact)) : s = t := by
  by_contra hne
  have hother {score' : Float} {via' : Via} (hvia : via' ≠ .exact)
      (h : some (score', via') = some (score, .exact)) : False :=
    hvia (Prod.mk.inj (Option.some.inj h)).2
  rw [windowScore, if_neg hne] at h
  dsimp only at h
  split at h
  · cases h
  · exact hother (by decide) h
  · exact hother (by decide) h
  · split at h <;> exact hother (by decide) h

end Wake

end Parlance
