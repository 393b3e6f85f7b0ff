import Parlance.Proofs.Text.Unwords
import Parlance.Proofs.Unicode.Lowering
import Parlance.Text.Fold

/-!
Folded words: their characters and their lengths. Main statements: `lowered_foldToken`, that turning to
lower case leaves them alone, and `weight_map_foldToken_le`, which bounds their length.
-/

namespace Parlance

namespace Unicode

theorem decompositionSteps_length_le : ∀ e ∈ decompositionSteps.toList, e.2.length ≤ 2 := by
  decide +kernel

theorem length_flatMap_le {α β : Type} {f : α → List β} {n : Nat} (h : ∀ x, (f x).length ≤ n)
    (l : List α) : (l.flatMap f).length ≤ n * l.length := by
  induction l with
  | nil => exact Nat.zero_le _
  | cons x l ih =>
    have hx := h x
    rw [List.flatMap_cons, List.length_append, List.length_cons, Nat.mul_succ]
    omega

section

-- the table is too long to be looked into
attribute [local irreducible] decompositionSteps

theorem decomposeWithin_succ (depth c : Nat) : decomposeWithin (depth + 1) c =
    match decompositionSteps.at? c with
    | some l => l.flatMap (decomposeWithin depth)
    | none => [c] :=
  rfl

end

theorem length_decomposeWithin_le (depth c : Nat) : (decomposeWithin depth c).length ≤ 2 ^ depth := by
  induction depth generalizing c with
  | zero => exact Nat.le_refl 1
  | succ depth ih =>
    rw [decomposeWithin_succ]
    split
    · rename_i l hl
      have htwo : l.length ≤ 2 := decompositionSteps_length_le (c, l) (mem_of_at? hl)
      calc (l.flatMap (decomposeWithin depth)).length ≤ 2 ^ depth * l.length := length_flatMap_le ih l
        _ ≤ 2 ^ depth * 2 := Nat.mul_le_mul_left _ htwo
    · exact Nat.one_le_two_pow

theorem length_decomposeChar_le (c : Char) : (decomposeChar c).length ≤ 8 := by
  unfold decomposeChar
  split
  · exact (by decide : 1 ≤ 8)
  · split
    · rename_i l hl
      rw [List.length_map]
      unfold Hangul.decompose? at hl
      dsimp only at hl
      split at hl
      · split at hl <;> rw [← Option.some.inj hl]
        · exact (by decide : 2 ≤ 8)
        · exact (by decide : 3 ≤ 8)
      · cases hl
    · rw [List.length_map]
      exact length_decomposeWithin_le 3 _

theorem length_composeHangul_go_le (c : Char) (l : List Char) :
    (composeHangul.go c l).length ≤ l.length + 1 := by
  induction l generalizing c with
  | nil => exact Nat.le_refl 1
  | cons d l ih =>
    rw [composeHangul.go, List.length_cons]
    split
    · exact (ih _).trans (Nat.le_succ _)
    · rw [List.length_cons]
      exact Nat.succ_le_succ (ih d)

theorem length_composeHangul_le (l : List Char) : (composeHangul l).length ≤ l.length := by
  cases l with
  | nil => exact Nat.le_refl 0
  | cons c l => exact length_composeHangul_go_le c l

end Unicode

namespace Text

open Unicode

variable {ws vs : List String}

/-! Folded words. -/

theorem length_stripMarks_le (l : List Char) : (stripMarks l).length ≤ 8 * l.length :=
  (length_composeHangul_le _).trans
    ((List.length_filter_le _ _).trans (length_flatMap_le length_decomposeChar_le l))

theorem length_foldToken_le (w : String) : (foldToken w).toList.length ≤ 16 * w.toList.length := by
  have htrim := length_trimList_le (fun c => !isAlphanumeric c) w.toList
  rw [foldToken, fold, String.toList_ofList, trimWhere, String.toList_ofList]
  have hlower := length_lowercase_le (stripMarks (trimList (fun c => !isAlphanumeric c) w.toList))
  have hstrip := length_stripMarks_le (trimList (fun c => !isAlphanumeric c) w.toList)
  omega

theorem lowered_foldToken (w : String) : ∀ c ∈ (foldToken w).toList, Lowered c := by
  intro c hc
  rw [foldToken, fold, String.toList_ofList] at hc
  exact lowered_of_mem_lowercase hc

theorem lowered_unwords (h : ∀ w ∈ ws, ∀ c ∈ w.toList, Lowered c) :
    ∀ c ∈ (unwords ws).toList, Lowered c := by
  have hblank : Lowered ' ' := by decide +kernel
  induction ws with
  | nil => simp [unwords]
  | cons w ws ih =>
    obtain ⟨hw, hws⟩ := List.forall_mem_cons.1 h
    cases ws with
    | nil => rwa [unwords, String.intercalate_singleton]
    | cons v ws =>
      intro c hc
      rw [unwords_cons_cons, String.toList_append, String.toList_append, List.mem_append,
        List.mem_append] at hc
      rcases hc with (hc | hc) | hc
      · exact hw c hc
      · rw [List.mem_singleton.1 hc]
        exact hblank
      · exact ih hws c hc

/-! The length of words that are put together. -/

/-- The length of words that stand side by side, with a space behind each. -/
def weight (ws : List String) : Nat :=
  (ws.map fun w => w.toList.length + 1).sum

@[simp] theorem weight_nil : weight [] = 0 := rfl

@[simp] theorem weight_cons (w : String) (ws : List String) :
    weight (w :: ws) = w.toList.length + 1 + weight ws := rfl

theorem weight_append (ws vs : List String) : weight (ws ++ vs) = weight ws + weight vs := by
  rw [weight, List.map_append, List.sum_append]
  rfl

theorem length_le_weight (ws : List String) : ws.length ≤ weight ws := by
  induction ws with
  | nil => exact Nat.le_refl 0
  | cons w ws ih =>
    rw [weight_cons, List.length_cons]
    omega

theorem weight_le_of_sublist (h : ws.Sublist vs) : weight ws ≤ weight vs := by
  induction h with
  | slnil => exact Nat.le_refl 0
  | cons w _ ih =>
    rw [weight_cons]
    omega
  | cons_cons w _ ih =>
    rw [weight_cons, weight_cons]
    omega

theorem length_unwords (hne : ws ≠ []) : (unwords ws).toList.length + 1 = weight ws := by
  induction ws with
  | nil => exact absurd rfl hne
  | cons w ws ih =>
    rw [weight_cons]
    cases ws with
    | nil =>
      rw [unwords, String.intercalate_singleton]
      rfl
    | cons v ws =>
      have hrest := ih (List.cons_ne_nil v ws)
      rw [unwords_cons_cons, String.toList_append, String.toList_append, List.length_append,
        List.length_append, show " ".toList.length = 1 from rfl]
      omega

theorem length_unwords_le (ws : List String) : (unwords ws).toList.length ≤ weight ws := by
  cases ws with
  | nil => exact Nat.le_refl 0
  | cons w ws => exact Nat.le_of_succ_le (length_unwords (List.cons_ne_nil w ws)).le

theorem weight_eq_length_iff : weight ws = ws.length ↔ ∀ w ∈ ws, w = "" := by
  induction ws with
  | nil => simp
  | cons w ws ih =>
    have hle := length_le_weight ws
    rw [List.forall_mem_cons, ← ih, weight_cons, List.length_cons, ← String.toList_eq_nil_iff,
      ← List.length_eq_zero_iff]
    omega

/-- Empty words weigh as much as they are many. -/
theorem weight_filter_ne_empty (ws : List String) :
    weight ws + (ws.filter (· ≠ "")).length = weight (ws.filter (· ≠ "")) + ws.length := by
  induction ws with
  | nil => rfl
  | cons w ws ih =>
    rw [weight_cons, List.length_cons]
    by_cases hw : w = ""
    · rw [List.filter_cons_of_neg (by simpa using hw), hw, show "".toList.length = 0 from rfl]
      omega
    · rw [List.filter_cons_of_pos (by simpa using hw), List.length_cons, weight_cons]
      omega

theorem sum_wordsFrom_le (pos start : Nat) (current l : List Char) :
    ((wordsFrom pos start current l).map fun w => w.chars.length + 1).sum ≤
      current.length + l.length + 1 := by
  induction l generalizing pos start current with
  | nil =>
    rw [wordsFrom]
    split
    · exact Nat.zero_le _
    · simp
  | cons c l ih =>
    rw [wordsFrom, List.length_cons]
    split
    · have hrest := ih (pos + c.utf8Size) (pos + c.utf8Size) []
      rw [List.length_nil] at hrest
      split
      · omega
      · rw [List.map_cons, List.sum_cons, List.length_reverse]
        omega
    · have hrest := ih (pos + c.utf8Size) start (c :: current)
      rw [List.length_cons] at hrest
      omega

theorem weight_words_le (s : String) : weight (words s) ≤ s.toList.length + 1 := by
  have hsum := sum_wordsFrom_le 0 0 [] s.toList
  have hweight : weight (words s) =
      ((wordsFrom 0 0 [] s.toList).map fun w => w.chars.length + 1).sum := by
    rw [weight, words, placedWords, List.map_map]
    congr 2
    funext w
    simp [Word.text]
  rw [List.length_nil] at hsum
  omega

theorem weight_map_foldToken_le (ws : List String) : weight (ws.map foldToken) ≤ 16 * weight ws := by
  induction ws with
  | nil => exact Nat.le_refl 0
  | cons w ws ih =>
    have hw := length_foldToken_le w
    rw [List.map_cons, weight_cons, weight_cons]
    omega

end Text

end Parlance
